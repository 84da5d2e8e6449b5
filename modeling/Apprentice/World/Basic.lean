import Apprentice.Diagnostic
import Apprentice.World.Event

/-!
# The world

A bounded grid of objects. An object lies in a cell of its own or inside another object; cells are
given out row by row, so the layout is a function of what has happened. Names are compared without
regard to letter case. Every change of an object is logged, and an operation that fails changes
nothing.
-/

namespace Apprentice

/-- Why an object cannot be put into another one. -/
inductive ContainmentFault where
  | itself
  | cycle
  deriving DecidableEq, Repr

def ContainmentFault.describe : ContainmentFault → String
  | itself => "an object cannot contain itself"
  | cycle => "the container is already inside the object"

inductive WorldError where
  | notFound (id : ObjectId)
  | duplicateName (name : String)
  | containment (object container : ObjectId) (fault : ContainmentFault)
  | notContained (id : ObjectId)
  | full (width height : Nat)
  deriving DecidableEq, Repr

def WorldError.message : WorldError → String
  | notFound id => "object not found: " ++ idText id
  | duplicateName name => "an object named \"" ++ name ++ "\" already exists"
  | containment object container fault =>
    "cannot put " ++ idText object ++ " into " ++ idText container ++ ": " ++ fault.describe
  | notContained id => idText id ++ " is not inside any container"
  | full width height =>
    "the " ++ toString width ++ "x" ++ toString height ++ " world has no free cell"

def WorldError.diagnostic (e : WorldError) : Diagnostic :=
  match e with
  | notFound _ =>
    ⟨"lexagent::world::not_found", some e.message,
      some "The object may have been destroyed. List objects with `what is` queries."⟩
  | duplicateName _ =>
    ⟨"lexagent::world::duplicate_name", some e.message,
      some ("Object names are unique (case-insensitive). "
        ++ "Pick another name with `as <name>`.")⟩
  | containment .. =>
    ⟨"lexagent::world::containment", some e.message,
      some "An object cannot contain itself or one of its own containers."⟩
  | notContained _ =>
    ⟨"lexagent::world::not_contained", some e.message,
      some "Only objects that were put into a container can be retrieved from one."⟩
  | full .. =>
    ⟨"lexagent::world::full", some e.message,
      some ("Destroy an object, put one in a container, "
        ++ "or raise world_width / world_height in the config.")⟩

/-- Why an operation does not come to its end: it is refused, or it is broken off at a number that
is no 64-bit integer. -/
inductive WorldFailure where
  | refused (cause : WorldError)
  | aborted
  deriving DecidableEq, Repr

structure World where
  width : Nat
  height : Nat
  /-- The live objects, in the order of their ids. -/
  objects : List Object := []
  /-- For every contained object, its container. -/
  containers : List (ObjectId × ObjectId) := []
  /-- The log, oldest event first. -/
  events : List Event := []
  nextId : ObjectId := 1
  time : Nat := 0
  deriving DecidableEq, Repr

namespace World

/-- A world without objects; both sides of its grid are at least one cell long. -/
def new (width height : UInt32) : World where
  width := max width.toNat 1
  height := max height.toNat 1

/-! ### Looking -/

def find? (w : World) (id : ObjectId) : Option Object :=
  w.objects.find? fun o => o.id == id

def contains (w : World) (id : ObjectId) : Bool :=
  (w.find? id).isSome

/-- The objects that satisfy a condition, in the order of their ids. -/
def filter (w : World) (p : Object → Bool) : List Object :=
  w.objects.filter p

/-- The object with a name, in any letter case; blanks around the name that is looked for do not
count. -/
def named? (w : World) (name : String) : Option Object :=
  let wanted := Text.lower (Text.trim name.toList)
  w.objects.find? fun o => Text.lower o.name.toList == wanted

/-- The name of an object, or the written form of an id that no object has. -/
def nameOf (w : World) (id : ObjectId) : String :=
  match w.find? id with
  | some o => o.name
  | none => idText id

def containerOf? (w : World) (id : ObjectId) : Option ObjectId :=
  (w.containers.find? fun link => link.1 == id).map (·.2)

/-- What lies directly inside an object, in the order of the ids. -/
def contentsOf (w : World) (id : ObjectId) : List ObjectId :=
  (w.containers.filterMap fun link => if link.2 == id then some link.1 else none).mergeSort

/-- The containers around an object, innermost first, up to a number of steps. -/
def chainOf (w : World) : Nat → ObjectId → List ObjectId
  | 0, _ => []
  | steps + 1, id =>
    match w.containerOf? id with
    | some container => container :: w.chainOf steps container
    | none => []

/-- The containers around an object, innermost first. More steps than there are objects only happen
in a cycle. -/
def ancestors (w : World) (id : ObjectId) : List ObjectId :=
  w.chainOf (w.objects.length + 1) id

def isInside (w : World) (id ancestor : ObjectId) : Bool :=
  (w.ancestors id).contains ancestor

/-- How many containers lie around an object. -/
def depth (w : World) (id : ObjectId) : Nat :=
  (w.ancestors id).length

/-! ### Cells -/

/-- The cells are numbered row by row. -/
def cellAt (w : World) (index : Nat) : Cell :=
  ⟨Int64.ofNat (index % w.width), Int64.ofNat (index / w.width)⟩

def isTaken (w : World) (cell : Cell) : Bool :=
  w.objects.any fun o => o.position == some cell

/-- The first free cell among the given number of cells from an index on. -/
def freeCellFrom (w : World) (index : Nat) : Nat → Option Cell
  | 0 => none
  | remaining + 1 =>
    if w.isTaken (w.cellAt index) then w.freeCellFrom (index + 1) remaining
    else some (w.cellAt index)

/-- The first free cell of the grid. -/
def freeCell? (w : World) : Option Cell :=
  w.freeCellFrom 0 (w.width * w.height)

/-- The number of cells, if it is a 64-bit integer. -/
def cellCount? (w : World) : Option Nat :=
  if w.width * w.height ≤ Int64.maxValue.toInt.toNat then some (w.width * w.height) else none

/-- How many cells no object takes. They are not counted where there are too many cells. -/
def freeCellCount? (w : World) : Option Nat :=
  w.cellCount?.map fun cells => cells - (w.objects.filter fun o => o.position.isSome).length

def fullError (w : World) : WorldError :=
  .full w.width w.height

/-! ### Changing -/

def log (w : World) (object : ObjectId) (name : String) (kind : EventKind) : World :=
  { w with events := w.events ++ [⟨w.events.length + 1, w.time, object, name, kind⟩] }

def modify (w : World) (id : ObjectId) (f : Object → Object) : World :=
  { w with objects := w.objects.map fun o => if o.id == id then f o else o }

def unlink (w : World) (id : ObjectId) : World :=
  { w with containers := w.containers.filter fun link => link.1 != id }

def link (w : World) (id container : ObjectId) : World :=
  { w with containers := (id, container) :: (w.unlink id).containers }

def moveTo (position : Option Cell) (o : Object) : Object :=
  { o with position := position }

/-- The first name without an object among a name and its extensions by underscores, of which at
most the given number are tried. -/
def extendName (w : World) (name : String) : Nat → String
  | 0 => name
  | tries + 1 => if (w.named? name).isSome then w.extendName (name.push '_') tries else name

/-- The name of an object that is given none. -/
def fallbackName (w : World) (id : ObjectId) : String :=
  w.extendName ("object_" ++ toString id) w.objects.length

/-- Makes an object in the first free cell. -/
def create (w : World) (blueprint : Blueprint) : Except WorldError (ObjectId × World) :=
  match blueprint.name.filter fun name => (w.named? name).isSome with
  | some name => .error (.duplicateName name)
  | none =>
    match w.freeCell? with
    | none => .error w.fullError
    | some cell =>
      let o := blueprint.build w.nextId (w.fallbackName w.nextId) (some cell)
      let placed := { w with objects := w.objects ++ [o], nextId := w.nextId + 1 }
      .ok (o.id, placed.log o.id o.name .create)

/-- Hands an object over. Nothing happens if it has this owner already. -/
def setOwner (w : World) (id : ObjectId) (owner : Owner) : Except WorldError World :=
  match w.find? id with
  | none => .error (.notFound id)
  | some o =>
    if o.owner = owner then .ok w
    else
      .ok ((w.modify id fun o => { o with owner := owner }).log id o.name
        (.transfer o.owner owner))

/-- Puts an object into another one, out of where it was before. -/
def putInto (w : World) (id container : ObjectId) : Except WorldError World :=
  if !w.contains id then .error (.notFound id)
  else if !w.contains container then .error (.notFound container)
  else if id = container then .error (.containment id container .itself)
  else if w.isInside container id then .error (.containment id container .cycle)
  else
    let moved := (w.link id container).modify id (moveTo none)
    .ok (moved.log id (moved.nameOf id) (.putIn container (moved.nameOf container)))

/-- Takes an object out of its container, into the first free cell, and says which container it
was. -/
def takeOut (w : World) (id : ObjectId) : Except WorldError (ObjectId × World) :=
  if !w.contains id then .error (.notFound id)
  else
    match w.containerOf? id with
    | none => .error (.notContained id)
    | some container =>
      match w.freeCell? with
      | none => .error w.fullError
      | some cell =>
        let moved := (w.unlink id).modify id (moveTo (some cell))
        .ok (container,
          moved.log id (moved.nameOf id) (.takeOut container (moved.nameOf container)))

/-- Leaves the contents of a removed object where it was itself: in its container, or in free cells
of the open world. -/
def spill (w : World) (parent : Option ObjectId) : List ObjectId → World
  | [] => w
  | child :: children =>
    match parent with
    | some container => (w.link child container).spill parent children
    | none =>
      let unlinked := w.unlink child
      (unlinked.modify child (moveTo unlinked.freeCell?)).spill parent children

/-- Whether there are cells for what is in an object; its own cell may be one of them. -/
def checkRoom (w : World) (id : ObjectId) (freed : Bool) : Except WorldFailure Unit :=
  match w.freeCellCount? with
  | none => .error .aborted
  | some count =>
    if count + (if freed then 1 else 0) < (w.contentsOf id).length then
      .error (.refused w.fullError)
    else .ok ()

/-- Removes an object for good. In the open it must not hold more than there is room for. -/
def remove (w : World) (id : ObjectId) : Except WorldFailure (Object × World) :=
  match w.find? id with
  | none => .error (.refused (.notFound id))
  | some o => do
    let parent := w.containerOf? id
    if parent.isNone then
      w.checkRoom id o.position.isSome
    let without := { w.unlink id with objects := w.objects.filter fun other => other.id != id }
    return (o, (without.spill parent (without.contentsOf id)).log id o.name .destroy)

/-- Passes to the next point in time. -/
def advanceClock (w : World) : World :=
  { w with time := w.time + 1 }

end World

end Apprentice
