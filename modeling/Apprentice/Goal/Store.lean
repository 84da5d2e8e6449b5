import Apprentice.Goal.Basic

/-!
# The goal store

All goals that have ever been opened, in order. Goals are never removed; the only thing that happens
to a goal is that it leaves the active state, once.
-/

namespace Apprentice

structure GoalStore where
  goals : List Goal := []
  deriving Repr

namespace GoalStore

/-- The goal with an id. It stands at the place that its id says. -/
def get? (store : GoalStore) (id : GoalId) : Option Goal :=
  let expected := if id = 0 then none else store.goals[id - 1]?
  expected.filter (fun g => g.id == id) <|> store.goals.find? fun g => g.id == id

def active (store : GoalStore) : List Goal :=
  store.goals.filter Goal.isActive

def activeIds (store : GoalStore) : List GoalId :=
  store.active.map fun g => g.id

def isActive (store : GoalStore) (id : GoalId) : Bool :=
  (store.get? id).any Goal.isActive

/-- The active goal to understand a word, in any spelling. -/
def activeUnderstanding? (store : GoalStore) (word : String) : Option Goal :=
  let word := normalizeWord word
  store.goals.find? fun g =>
    g.isActive && g.kind == .understand && g.concept == some word

/-! ### Opening -/

def nextId (store : GoalStore) : GoalId :=
  store.goals.length + 1

def append (store : GoalStore) (g : Goal) : GoalStore :=
  ⟨store.goals ++ [g]⟩

/-- Opens a goal. -/
def openGoal (store : GoalStore) (kind : GoalKind) (description : String) (condition : Action)
    (tick : Nat) : GoalId × GoalStore :=
  (store.nextId,
    store.append ⟨store.nextId, description, kind, none, condition, .active, tick⟩)

/-- Opens a goal to understand a word, unless there is an active one. Says which goal it is and
whether it is new. -/
def openUnderstanding (store : GoalStore) (word : String) (tick : Nat) :
    GoalId × Bool × GoalStore :=
  let word := normalizeWord word
  match store.activeUnderstanding? word with
  | some g => (g.id, false, store)
  | none =>
    (store.nextId, true,
      store.append ⟨store.nextId, "understand '" ++ word ++ "'", .understand, some word,
        .verifyUnderstanding word, .active, tick⟩)

/-! ### Closing -/

/-- Gives every active goal with an id a status. -/
def setStatus (store : GoalStore) (id : GoalId) (status : GoalStatus) : GoalStore :=
  ⟨store.goals.map fun g => if g.id == id && g.isActive then { g with status := status } else g⟩

/-- Ends a goal, and says whether it was active until now. -/
def close (store : GoalStore) (id : GoalId) (status : GoalStatus) : Bool × GoalStore :=
  if store.goals.any fun g => g.id == id && g.isActive then (true, store.setStatus id status)
  else (false, store)

def complete (store : GoalStore) (id : GoalId) : Bool × GoalStore :=
  store.close id .completed

def fail (store : GoalStore) (id : GoalId) (reason : String) : Bool × GoalStore :=
  store.close id (.failed reason)

def cancel (store : GoalStore) (id : GoalId) : Bool × GoalStore :=
  store.fail id "cancelled"

end GoalStore

end Apprentice
