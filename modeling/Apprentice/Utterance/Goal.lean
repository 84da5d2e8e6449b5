import Apprentice.Goal.Basic
import Apprentice.Utterance.Command

/-!
# Statements of goals

`I have a red ball`, `there is a blue box`, `a red box exists`, or any question that only looks at
the world. A goal is always the apprentice's own, whoever is its grammatical subject.
-/

namespace Apprentice.Utterance

/-- A goal that has not been opened. -/
structure GoalRequest where
  kind : GoalKind
  description : String
  condition : Action
  deriving Repr

/-- What the statement of a goal is taken for. -/
inductive GoalReading where
  | goal (request : GoalRequest)
  | unknown (words : List String) (input : String)
  deriving Repr

def dropSubject (tokens : List Token) : List Token :=
  if (tokens.head?.bind owner?).isSome then tokens.tail else tokens

/-- A goal to bring something about, other than to have something, or to find out how things are. -/
def stateGoal? (tokens : List Token) : Option (GoalKind × Action) :=
  match check? tokens with
  | some (.verifyExistence description) =>
    some (.achieveExistence, .verifyExistence description)
  | _ => do
    let action ← command? tokens
    match action.kind with
    | .evaluateRelation | .query | .verifyProperty => return (.verifyState, action)
    | _ => none

/-- The goal that tokens without articles state. -/
def goal? (tokens : List Token) : Option (GoalKind × Action) :=
  match dropSubject tokens with
  | verb :: rest =>
    if verb.isAnyOf ["have", "has"] then
      (description? rest).map fun description =>
        (.achievePossession, .verifyPossession .agent description)
    else stateGoal? tokens
  | [] => stateGoal? tokens

def readGoal (text : String) (lexicon : Lexicon) (world : World) :
    Except UtteranceError GoalReading :=
  let tokens := tokenize text lexicon world
  let input := Text.trimmed text
  match unknownWords tokens with
  | [] =>
    match goal? (content tokens) with
    | some (kind, condition) => .ok (.goal ⟨kind, input, condition⟩)
    | none => .error (.notAGoal input)
  | words => .ok (.unknown words input)

end Apprentice.Utterance
