import Apprentice.Proofs.Expr.Typing
import Apprentice.Proofs.Goal.Inquiry
import Apprentice.Proofs.Utterance.Words

/-!
# Unknown words

What an agent does about words that it does not know, when nobody explains them: it sets itself
goals to understand them, one for each word, and does nothing else. To say the same again changes
nothing. The words come from tokens, so they are in normal form already, and once more in normal
form they do not change any further; that is what keeps the goals from being opened twice.
-/

namespace Apprentice

open Utterance

/-- Whether a resolver has no answer to any word. -/
def Resolver.IsSilent (resolver : Resolver) : Prop :=
  ∀ word, ∃ cause, resolver.resolve word = .error cause

namespace Utterance

variable {text input : String} {lexicon : Lexicon} {world : World} {words : List String}

theorem isSettled_of_mem_unknownWords :
    ∀ word ∈ unknownWords (tokenize text lexicon world), IsSettled word := by
  intro word hword
  obtain ⟨t, ht, -, rfl⟩ := mem_unknownWords_iff.mp hword
  obtain ⟨spoken, hspoken, hnormalized, -⟩ := exists_of_mem_tokensAfter t ht
  rw [IsSettled, hnormalized]
  exact normalizeWord_settled (isBlank_of_mem_splitWords spoken hspoken)

theorem unknownWords_of_read (hread : read text lexicon world = .ok (.unknown words input)) :
    words = unknownWords (tokenize text lexicon world) := by
  rw [read] at hread
  split at hread
  next request _ => cases request <;> cases hread
  next =>
    dsimp only at hread
    split at hread
    next => cases hread
    next =>
      cases hread
      rfl

theorem isSettled_of_read (hread : read text lexicon world = .ok (.unknown words input)) :
    ∀ word ∈ words, IsSettled word := by
  rw [unknownWords_of_read hread]
  exact isSettled_of_mem_unknownWords

theorem read_of_unknownWords (hteach : startsTeach text.toList = false)
    (hwords : unknownWords (tokenize text lexicon world) = words) (hsome : words ≠ []) :
    read text lexicon world = .ok (.unknown words (Text.trimmed text)) := by
  have hnone : parseTeach text = none := by
    rw [parseTeach, hteach]
    rfl
  rw [read, hnone]
  dsimp only
  rw [hwords]
  cases words with
  | nil => exact absurd rfl hsome
  | cons => rfl

theorem unknownWords_of_readGoal
    (hread : readGoal text lexicon world = .ok (.unknown words input)) :
    words = unknownWords (tokenize text lexicon world) := by
  rw [readGoal] at hread
  split at hread
  next =>
    split at hread
    next => cases hread
    next => cases hread
  next =>
    cases hread
    rfl

end Utterance

/-! ### Calls -/

namespace Agent

inductive Call where
  | process (text : String)
  | setGoal (text : String)
  | tick
  | cancel (goal : GoalId)

/-- The agent after a call. One that is refused leaves it as it was. -/
def call (agent : Agent) : Call → Agent
  | .process text => (agent.process text).2
  | .setGoal text =>
    match agent.setGoal text with
    | .ok (_, next) => next
    | .error _ => agent
  | .tick => agent.tick.2
  | .cancel goal =>
    match agent.cancel goal with
    | .ok (_, next) => next
    | .error _ => agent

/-- An agent that nothing was asked of yet, in a world. -/
def inWorld (config : Config) (lexicon : Lexicon) (resolver : Resolver) (w : World) : Agent :=
  { new config lexicon resolver with world := w }

def afterCalls (agent : Agent) (calls : List Call) : Agent :=
  calls.foldl call agent

/-- What holds of an agent that nobody explains words to: no two of its goals are to understand the
same word. -/
structure Focused (agent : Agent) : Prop where
  silent : agent.resolver.IsSilent
  goals : agent.goals.Reachable
  single : agent.goals.Unrepeated

variable {agent : Agent} {text input : String} {words : List String}

theorem resolveWords_of_silent {resolver : Resolver} (hsilent : resolver.IsSilent)
    (lexicon : Lexicon) (words : List String) :
    resolveWords resolver lexicon words = ([], lexicon) := by
  induction words with
  | nil => rfl
  | cons word words ih =>
      obtain ⟨cause, hcause⟩ := hsilent word
      rw [resolveWords, hcause]
      exact ih

theorem process_of_silent (hsilent : agent.resolver.IsSilent) (text : String) :
    agent.process text = agent.reply (agent.hear text) := by
  rw [process]
  split
  next words input hhear =>
    rw [resolveWords_of_silent hsilent, hhear]
    rfl
  next => rfl

/-! ### What calls keep -/

theorem Focused.ask (hfocused : agent.Focused) (hsettled : ∀ word ∈ words, IsSettled word) :
    (agent.ask words).2.Focused where
  silent := hfocused.silent
  goals := hfocused.goals.inquire agent.scheduler.ticks words
  single :=
    (GoalStore.asked_inquire hsettled agent.goals agent.scheduler.ticks).kept hfocused.single

theorem lexicon_of_teach {word expression : String} {wordType : WordType} {replace : Bool}
    {outcome : TeachOutcome} {taught : Agent}
    (hteach : agent.teach word wordType expression replace = .ok (outcome, taught)) :
    taught = { agent with lexicon := taught.lexicon } := by
  obtain ⟨⟨_, lexicon⟩, -, hreturn⟩ := bind_eq_ok hteach
  cases hreturn
  rfl

theorem Focused.obey (hfocused : agent.Focused) (request : TeachRequest) :
    (agent.obey request).2.Focused := by
  rw [Agent.obey]
  split
  next hteach =>
    rw [lexicon_of_teach hteach]
    exact { hfocused with }
  next => exact hfocused
  next hteach =>
    rw [lexicon_of_teach hteach]
    exact { hfocused with }
  next => exact hfocused

theorem Focused.process (hfocused : agent.Focused) (text : String) :
    (agent.process text).2.Focused := by
  rw [process_of_silent hfocused.silent]
  cases hhear : agent.hear text with
  | error cause => exact hfocused
  | ok reading =>
      cases reading with
      | act action => exact { hfocused with }
      | teach request => exact hfocused.obey request
      | unknown words input => exact hfocused.ask (isSettled_of_read hhear)

theorem Focused.setGoal (hfocused : agent.Focused) {response : Response} {next : Agent}
    (hset : agent.setGoal text = .ok (response, next)) : next.Focused := by
  obtain ⟨reading, hread, hset⟩ := bind_eq_ok hset
  cases reading with
  | unknown words input =>
      cases hset
      refine hfocused.ask ?_
      rw [unknownWords_of_readGoal hread]
      exact isSettled_of_mem_unknownWords
  | goal request =>
      cases hset
      exact {
        silent := hfocused.silent
        goals := .opened hfocused.goals request.kind request.description request.condition _
        single := fun concept =>
          (GoalStore.asking_openGoal _ _ _ _ _ concept).trans_le (hfocused.single concept) }

theorem Focused.tick (hfocused : agent.Focused) : agent.tick.2.Focused where
  silent := hfocused.silent
  goals := (hfocused.goals.exists_after agent.scheduler agent.lexicon agent.world).1
  single := fun concept => (hfocused.goals.asking_tick_le agent.scheduler agent.lexicon agent.world
    concept).trans (hfocused.single concept)

theorem Focused.cancel (hfocused : agent.Focused) {goal : GoalId} {cancelled : Bool} {next : Agent}
    (hcancel : agent.cancel goal = .ok (cancelled, next)) : next.Focused := by
  rw [Agent.cancel] at hcancel
  split at hcancel
  next => cases hcancel
  next =>
    cases hcancel
    exact {
      silent := hfocused.silent
      goals := .closed hfocused.goals goal (.failed "cancelled")
      single := fun concept =>
        (GoalStore.asking_close_le _ GoalStatus.noConfusion goal concept).trans
          (hfocused.single concept) }

theorem Focused.call (hfocused : agent.Focused) (call : Call) : (agent.call call).Focused := by
  cases call with
  | process text => exact hfocused.process text
  | tick => exact hfocused.tick
  | setGoal text =>
      rw [Agent.call]
      split
      next hset => exact hfocused.setGoal hset
      next => exact hfocused
  | cancel goal =>
      rw [Agent.call]
      split
      next hcancel => exact hfocused.cancel hcancel
      next => exact hfocused

theorem Focused.afterCalls (hfocused : agent.Focused) (calls : List Call) :
    (agent.afterCalls calls).Focused := by
  induction calls generalizing agent with
  | nil => exact hfocused
  | cons call calls ih => exact ih (hfocused.call call)

/-! ### What unknown words lead to -/

/-- What an agent does about unknown words: goals are added, so that exactly one active goal is to
understand each of the words, and everything else stays as it is; and it has nothing to do when the
same is said once more. -/
structure Forks (agent : Agent) (text : String) (words : List String) : Prop where
  added : ∃ goals,
    (agent.process text).2 = { agent with goals := ⟨agent.goals.goals ++ goals⟩ } ∧
      (agent.process text).1.opened = goals.map Goal.id ∧
      ∀ g ∈ goals, ∃ word ∈ words, g.asksFor (normalizeWord word) = true
  asked : ∀ word ∈ words, (agent.process text).2.goals.asking (normalizeWord word) = 1
  again : ((agent.process text).2.process text).1.opened = [] ∧
    ((agent.process text).2.process text).2 = (agent.process text).2

theorem Focused.forks (hfocused : agent.Focused)
    (hhear : agent.hear text = .ok (.unknown words input)) : agent.Forks text words := by
  have hsettled := isSettled_of_read hhear
  have hreply : agent.process text = agent.ask words := by
    rw [process_of_silent hfocused.silent, hhear]
    rfl
  have hagain : (agent.ask words).2.process text = (agent.ask words).2.ask words := by
    -- the words are heard with the lexicon and the world that were there before
    have hsame : (agent.ask words).2.hear text = agent.hear text := rfl
    have hsilent : (agent.ask words).2.resolver.IsSilent := hfocused.silent
    rw [process_of_silent hsilent, hsame, hhear]
    rfl
  have hasked := GoalStore.asked_inquire hsettled agent.goals agent.scheduler.ticks
  have hone := hasked.asking_eq_one hfocused.single
  obtain ⟨hnothing, hsame⟩ := (GoalStore.asked_inquire hsettled (agent.ask words).2.goals
    agent.scheduler.ticks).idle fun word hword => hasked.asked word hword
  refine ⟨?_, hreply ▸ hone, ?_⟩
  · obtain ⟨goals, hgoals, hids, hasks⟩ := hasked.added
    rw [hreply]
    refine ⟨goals, ?_, hids, hasks⟩
    rw [← hgoals]
    rfl
  · rw [hreply, hagain]
    refine ⟨hnothing, ?_⟩
    change { (agent.ask words).2 with
      goals := ((agent.ask words).2.goals.inquire agent.scheduler.ticks words).goals } = _
    rw [hsame]

/-- Unknown words are asked about once, whatever an agent was told and however often it ticked
before, if nobody explains words to it. -/
theorem forks_of_unknown {resolver : Resolver} (hsilent : resolver.IsSilent) (config : Config)
    (lexicon : Lexicon) (w : World) (calls : List Call)
    (hhear : ((inWorld config lexicon resolver w).afterCalls calls).hear text =
      .ok (.unknown words input)) :
    ((inWorld config lexicon resolver w).afterCalls calls).Forks text words := by
  have hstart : (inWorld config lexicon resolver w).Focused :=
    ⟨hsilent, .empty, GoalStore.unrepeated_empty⟩
  exact (hstart.afterCalls calls).forks hhear

/-- After a goal for a word was cancelled, there is one for it again. -/
theorem forks_of_unknown_cancelled :
    let agent := (inWorld .blank .empty .silent (World.new 2 1)).afterCalls
      [.process "ball", .tick, .cancel 1, .setGoal "have a box"]
    Resolver.silent.IsSilent ∧ agent.hear "box ball" = .ok (.unknown ["box", "ball"] "box ball") ∧
      agent.Forks "box ball" ["box", "ball"] ∧ (agent.process "box ball").1.opened = [3] := by
  intro agent
  have htrimmed : Text.trimmed "box ball" = "box ball" := by decide +kernel
  have hwords : unknownWords (tokenize "box ball" agent.lexicon agent.world) = ["box", "ball"] := by
    decide +kernel
  have hhear : agent.hear "box ball" = .ok (.unknown ["box", "ball"] "box ball") := by
    have hread := read_of_unknownWords (by decide +kernel) hwords (List.cons_ne_nil _ _)
    rwa [htrimmed] at hread
  have hsilent : Resolver.silent.IsSilent := fun word => ⟨.unknown word, rfl⟩
  exact ⟨hsilent, hhear, forks_of_unknown hsilent .blank .empty (World.new 2 1) _ hhear,
    by decide +kernel⟩

end Agent

end Apprentice
