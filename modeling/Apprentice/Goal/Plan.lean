import Apprentice.Goal.Basic

/-!
# Plans

The steps towards a goal, and how far they have been carried out. Plans are kept in a table with at
most one plan for every goal.
-/

namespace Apprentice

structure Plan where
  goal : GoalId
  steps : List Action
  /-- How many steps have been carried out. -/
  cursor : Nat := 0
  /-- Whether to start over when all steps have been carried out. -/
  repeatable : Bool := false
  /-- The idea behind the plan, in a few words. -/
  strategy : String
  deriving Repr

namespace Plan

def nextStep? (p : Plan) : Option Action :=
  p.steps[p.cursor]?

def isExhausted (p : Plan) : Bool :=
  p.steps.length ≤ p.cursor

def remaining (p : Plan) : Nat :=
  p.steps.length - p.cursor

def kinds (p : Plan) : List ActionKind :=
  p.steps.map Action.kind

/-- The plan after its next step, if there is one. -/
def advance (p : Plan) : Plan :=
  if p.isExhausted then p else { p with cursor := p.cursor + 1 }

def rewind (p : Plan) : Plan :=
  { p with cursor := 0 }

end Plan

/-! ### The table -/

structure PlanTable where
  plans : List Plan := []
  deriving Repr

namespace PlanTable

def get? (table : PlanTable) (goal : GoalId) : Option Plan :=
  table.plans.find? fun p => p.goal == goal

def contains (table : PlanTable) (goal : GoalId) : Bool :=
  (table.get? goal).isSome

def size (table : PlanTable) : Nat :=
  table.plans.length

def isEmpty (table : PlanTable) : Bool :=
  table.plans.isEmpty

def retain (table : PlanTable) (keep : GoalId → Bool) : PlanTable :=
  ⟨table.plans.filter fun p => keep p.goal⟩

def erase (table : PlanTable) (goal : GoalId) : PlanTable :=
  table.retain fun other => other != goal

/-- Puts a plan in the place of the one that its goal had. -/
def insert (table : PlanTable) (p : Plan) : PlanTable :=
  ⟨p :: (table.erase p.goal).plans⟩

end PlanTable

end Apprentice
