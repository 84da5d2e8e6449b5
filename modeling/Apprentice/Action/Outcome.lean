import Apprentice.Action.Basic
import Apprentice.Description.Synthesis
import Apprentice.World.Basic

/-!
# Outcomes

What carrying out an action gives: a text for the user, and a result that later decisions are based
on. An action that cannot have its effect is a miss, with the cause; a miss is an answer like any
other and not a failure of the program.
-/

namespace Apprentice

/-- Why an object that was found cannot be used. -/
inductive Obstacle where
  | belongsToUser
  | insideContainer (containerName : String)
  | notHeld
  deriving DecidableEq, Repr

def Obstacle.describe : Obstacle → String
  | belongsToUser => "it belongs to you"
  | insideContainer containerName => "it is inside " ++ containerName
  | notHeld => "I don't have it"

/-- Why a change could not be made. -/
inductive Refusal where
  | world (cause : WorldError)
  | unsatisfiable (cause : Unsatisfiable)
  deriving DecidableEq, Repr

def Refusal.message : Refusal → String
  | world cause => cause.message
  | unsatisfiable cause => cause.message

/-- Why an action did not take effect. -/
inductive Miss where
  | noMatch (what : String)
  | ambiguous (what : String) (count : Nat)
  | unavailable (name : String) (obstacle : Obstacle)
  | refused (cause : Refusal)
  deriving DecidableEq, Repr

def Miss.describe : Miss → String
  | noMatch what => "I can't find " ++ what ++ "."
  | ambiguous what count =>
    toString count ++ " objects match " ++ what ++ "; please be more specific."
  | unavailable name obstacle => "I can't use " ++ name ++ ": " ++ obstacle.describe ++ "."
  | refused cause => "That didn't work: " ++ cause.message ++ "."

inductive StepResult where
  | unit
  | created (id : ObjectId)
  | object (id : ObjectId)
  | objects (ids : List ObjectId)
  | truth (value : Bool)
  | text (content : String)
  | question (content : String)
  | reply (content : String)
  | events (events : List Event)
  | miss (cause : Miss)
  /-- The action was broken off: the words of a reply could not be compared with the spoken word, or
  there were too many cells to be counted. -/
  | aborted
  deriving DecidableEq, Repr

namespace StepResult

/-- Whether a result counts as true, or as something that was found. -/
def isTruthy : StepResult → Bool
  | created _ | object _ => true
  | objects ids => !ids.isEmpty
  | truth value => value
  | text content | question content | reply content => !content.isEmpty
  | events es => !es.isEmpty
  | unit | miss _ | aborted => false

/-- The objects that a result is about. -/
def ids : StepResult → List ObjectId
  | created id | object id => [id]
  | objects found => found
  | _ => []

end StepResult

structure StepOutcome where
  feedback : String
  result : StepResult
  deriving DecidableEq, Repr

namespace StepOutcome

def ofMiss (cause : Miss) : StepOutcome :=
  ⟨cause.describe, .miss cause⟩

/-- An outcome that is nothing but a text. -/
def ofText (content : String) : StepOutcome :=
  ⟨content, .text content⟩

end StepOutcome

end Apprentice
