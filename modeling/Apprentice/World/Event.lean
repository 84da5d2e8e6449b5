import Apprentice.World.Object

/-!
# Events

What happens to objects is written to a log. An event keeps the names of the objects it is about, so
that it can be told after they are gone.
-/

namespace Apprentice

inductive EventKind where
  | create
  | destroy
  | transfer (source target : Owner)
  | putIn (container : ObjectId) (containerName : String)
  | takeOut (container : ObjectId) (containerName : String)
  deriving DecidableEq, Repr

def EventKind.label : EventKind → String
  | create => "CREATE"
  | destroy => "DESTROY"
  | transfer .. => "TRANSFER"
  | putIn .. => "PUT_IN"
  | takeOut .. => "TAKE_OUT"

structure Event where
  /-- The place in the log, from one on. -/
  id : Nat
  time : Nat
  object : ObjectId
  /-- The name of the object at that time. -/
  name : String
  kind : EventKind
  deriving DecidableEq, Repr

/-- What an event says about its object. -/
def EventKind.describe : EventKind → String
  | create => "was created"
  | destroy => "was destroyed"
  | transfer source target => "passed from " ++ source.label ++ " to " ++ target.label
  | putIn _ containerName => "was put in " ++ containerName
  | takeOut _ containerName => "was taken out of " ++ containerName

def Event.describe (e : Event) : String :=
  "#" ++ toString e.id ++ " (t" ++ toString e.time ++ ") " ++ e.name ++ " " ++ e.kind.describe

end Apprentice
