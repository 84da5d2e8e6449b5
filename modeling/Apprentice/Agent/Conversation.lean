import Apprentice.Agent.Basic
import Apprentice.Utterance.Goal

/-!
# Conversation

What an agent replies to an utterance, and how the utterance changes it. Commands are carried out at
once. Unknown words are first offered to the resolver; for those that it cannot explain, the agent
sets itself goals to understand them.
-/

namespace Apprentice

open Utterance

structure Response where
  feedback : String
  /-- What the agent was about to do, put into words before it did it. -/
  intent : Option String := none
  action : Option ActionKind := none
  result : StepResult := .unit
  /-- The goals that the utterance opened. -/
  opened : List GoalId := []
  /-- The words that were taught, by the utterance or by the resolver. -/
  learned : List String := []
  deriving Repr

/-- Offers words to a resolver and teaches what it answers. Gives the words that were taught. -/
def resolveWords (resolver : Resolver) (lexicon : Lexicon) : List String → List String × Lexicon
  | [] => ([], lexicon)
  | word :: words =>
    let taught := do
      let concept ← (resolver.resolve word).toOption
      (lexicon.teach word concept.wordType concept.expression false).toOption
    match taught with
    | some (_, next) =>
      let (learned, last) := resolveWords resolver next words
      (word :: learned, last)
    | none => resolveWords resolver lexicon words

/-- What is opened and asked when words are unknown. -/
structure Inquiries where
  opened : List GoalId
  questions : List String
  goals : GoalStore

/-- Sees to it that there is a goal to understand each word. -/
def GoalStore.inquire (goals : GoalStore) (tick : Nat) : List String → Inquiries
  | [] => ⟨[], [], goals⟩
  | word :: words =>
    let (id, created, next) := goals.openUnderstanding word tick
    let question := (next.get? id).bind Goal.question?
    let rest := next.inquire tick words
    ⟨if created then id :: rest.opened else rest.opened, question.toList ++ rest.questions,
      rest.goals⟩

namespace Agent

/-- Carries out an action. -/
def act (agent : Agent) (action : Action) : Response × Agent :=
  let (outcome, world) := action.execute agent.lexicon agent.world
  ({ feedback := outcome.feedback, intent := some action.describe, action := some action.kind,
      result := outcome.result },
    { agent with world := world })

/-- Carries out a teach instruction. -/
def obey (agent : Agent) (request : TeachRequest) : Response × Agent :=
  let key := normalizeWord request.word
  match agent.teach request.word request.wordType request.expression request.replace with
  | .ok (.learned, taught) =>
    ({ feedback := "Learned " ++ request.wordType.label ++ " \"" ++ request.word ++ "\"."
       learned := [key] }, taught)
  | .ok (.unchanged, _) =>
    ({ feedback := "I already know \"" ++ request.word ++ "\" that way." }, agent)
  | .ok (.replaced previous, taught) =>
    ({ feedback := "\"" ++ request.word ++ "\" now means " ++ request.expression ++ " (was "
         ++ previous ++ ")."
       learned := [key] }, taught)
  | .error cause => ({ feedback := cause.message }, agent)

/-- Asks about unknown words. -/
def ask (agent : Agent) (words : List String) : Response × Agent :=
  let inquiries := agent.goals.inquire agent.scheduler.ticks words
  let unknown := String.intercalate ", " (words.map fun word => "\"" ++ word ++ "\"")
  ({ feedback := "I don't know " ++ unknown ++ " yet. "
       ++ String.intercalate " " inquiries.questions
     opened := inquiries.opened },
    { agent with goals := inquiries.goals })

/-- Replies to what an utterance was taken for. -/
def reply (agent : Agent) : Except UtteranceError Reading → Response × Agent
  | .ok (.act action) => agent.act action
  | .ok (.teach request) => agent.obey request
  | .ok (.unknown words _) => agent.ask words
  | .error cause => ({ feedback := cause.message }, agent)

/-- What the agent takes an utterance for. -/
def hear (agent : Agent) (text : String) : Except UtteranceError Reading :=
  read text agent.lexicon agent.world

/-- Replies to an utterance. When the resolver explains some of its words, it is read once more. -/
def process (agent : Agent) (text : String) : Response × Agent :=
  match agent.hear text with
  | .ok (.unknown words _) =>
    let (learned, lexicon) := resolveWords agent.resolver agent.lexicon words
    if learned.isEmpty then agent.ask words
    else
      let taught := { agent with lexicon := lexicon }
      let (response, next) := taught.reply (taught.hear text)
      ({ response with learned := learned ++ response.learned }, next)
  | reading => agent.reply reading

/-- Opens the goal that a text states. Unknown words are asked about instead. -/
def setGoal (agent : Agent) (text : String) : Except UtteranceError (Response × Agent) := do
  match ← readGoal text agent.lexicon agent.world with
  | .unknown words _ => return agent.ask words
  | .goal request =>
    let (id, goals) := agent.goals.openGoal request.kind request.description request.condition
      agent.scheduler.ticks
    return ({ feedback := "New goal " ++ goalText id ++ ": " ++ text ++ "."
              opened := [id] },
      { agent with goals := goals })

end Agent

end Apprentice
