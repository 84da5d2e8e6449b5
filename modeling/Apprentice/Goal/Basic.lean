import Apprentice.Action.Basic

/-!
# Goals

Something that the apprentice pursues until it is the case. A goal carries a check that says when it
is achieved; goals to understand a word also carry the word, and ask for it.
-/

namespace Apprentice

/-- Ids are given out in the order in which goals are opened, from one on. -/
abbrev GoalId := Nat

/-- The written form of a goal's id. -/
def goalText (id : GoalId) : String :=
  "goal-" ++ toString id

inductive GoalKind where
  | understand
  | achievePossession
  | achieveExistence
  | verifyState
  deriving DecidableEq, Repr

def GoalKind.label : GoalKind → String
  | understand => "UNDERSTAND"
  | achievePossession => "ACHIEVE_POSSESSION"
  | achieveExistence => "ACHIEVE_EXISTENCE"
  | verifyState => "VERIFY_STATE"

inductive GoalStatus where
  | active
  | completed
  | failed (reason : String)
  deriving DecidableEq, Repr

def GoalStatus.describe : GoalStatus → String
  | active => "active"
  | completed => "completed"
  | failed reason => "failed: " ++ reason

/-- What is asked about an unknown word. -/
def understandQuestion (word : String) : String :=
  "What is a '" ++ word ++ "'? Please describe it so I can understand."

structure Goal where
  id : GoalId
  description : String
  kind : GoalKind
  /-- The word in question, of a goal to understand one. -/
  concept : Option String
  /-- The check that holds when the goal is achieved. -/
  condition : Action
  status : GoalStatus
  /-- How many ticks had passed when the goal was opened. -/
  createdTick : Nat
  deriving Repr

namespace Goal

def isActive (g : Goal) : Bool :=
  g.status = .active

def question? (g : Goal) : Option String :=
  g.concept.map understandQuestion

end Goal

end Apprentice
