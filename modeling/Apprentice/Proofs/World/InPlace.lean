import Apprentice.Proofs.Except
import Apprentice.Proofs.World.Run

/-!
# Operations in place

An operation of the world gives a new world or a reason, so it cannot leave a world half changed. A
world that is changed in place can be left so: what has been done to it when a later step fails
stays done. Here each operation is written as such a program, step by step, with every step that can
fail at the place where it is taken, some of them after the first change.

Each program ends as its operation says, and where the operation gives a reason the world is as it
was before. So no step fails once something has been changed. What a call that succeeds adds to the
log is one event about its object; only to hand an object to its owner adds none, and changes
nothing else either.
-/

namespace Apprentice

/-- A program that changes a world. It does not take back what it has done when it fails. -/
abbrev InPlace (ε α : Type) := EStateM ε World α

namespace InPlace

open World (moveTo)

variable {ε α : Type} {w next : World}

example :
    (do modify World.advanceClock; throw (.notFound 1) : InPlace WorldError Unit).run
      (World.new 1 1) = .error (.notFound 1) (World.new 1 1).advanceClock :=
  rfl

/-! ### Steps -/

def ensure (id : ObjectId) : InPlace WorldError Unit := do
  if !(← get).contains id then
    throw (.notFound id)

def require (id : ObjectId) : InPlace WorldError Object := do
  match (← get).find? id with
  | some o => return o
  | none => throw (.notFound id)

def checkName (name : Option String) : InPlace WorldError Unit := do
  if let some name := name then
    if ((← get).named? name).isSome then
      throw (.duplicateName name)

def findCell : InPlace WorldError Cell := do
  match (← get).freeCell? with
  | some cell => return cell
  | none => throw (← get).fullError

def move (id : ObjectId) (position : Option Cell) : InPlace WorldError Unit := do
  let _ ← require id
  modify fun w => w.modify id (moveTo position)

def unlink (id : ObjectId) : InPlace WorldError ObjectId := do
  match (← get).containerOf? id with
  | some container =>
    modify fun w => w.unlink id
    return container
  | none => throw (.notContained id)

def drop (id : ObjectId) : InPlace WorldError Object := do
  let o ← require id
  modify fun w => { w with objects := w.objects.filter fun other => other.id != id }
  return o

def write (id : ObjectId) (name : String) (kind : EventKind) : InPlace ε Unit :=
  modify fun w => w.log id name kind

/-- Leaves what was in a removed object where the object was itself. -/
def resettle (parent : Option ObjectId) (child : ObjectId) : InPlace ε Unit :=
  match parent with
  | some container => modify fun w => w.link child container
  | none => do
    modify fun w => w.unlink child
    let cell := (← get).freeCell?
    modify fun w => w.modify child (moveTo cell)

/-- A program that can be refused, where another one can also be aborted. -/
def refusing (program : InPlace WorldError α) : InPlace WorldFailure α :=
  program.adaptExcept .refused

def ensureRoom (id : ObjectId) : InPlace WorldFailure Unit := do
  let w ← get
  match w.freeCellCount? with
  | none => throw .aborted
  | some count =>
    let freed := (w.find? id).any fun o => o.position.isSome
    if count + (if freed then 1 else 0) < (w.contentsOf id).length then
      throw (.refused w.fullError)

/-! ### Programs -/

def create (blueprint : Blueprint) : InPlace WorldError ObjectId := do
  checkName blueprint.name
  let cell ← findCell
  let id := (← get).nextId
  modify fun w => { w with nextId := w.nextId + 1 }
  let o := blueprint.build id ((← get).fallbackName id) (some cell)
  modify fun w => { w with objects := w.objects ++ [o] }
  write id o.name .create
  return id

def setOwner (id : ObjectId) (owner : Owner) : InPlace WorldError Unit := do
  let o ← require id
  if o.owner = owner then
    return
  modify fun w => w.modify id fun o => { o with owner := owner }
  write id o.name (.transfer o.owner owner)

def putInto (id container : ObjectId) : InPlace WorldError Unit := do
  ensure id
  ensure container
  if id = container then
    throw (.containment id container .itself)
  if (← get).isInside container id then
    throw (.containment id container .cycle)
  modify fun w => w.link id container
  move id none
  let w ← get
  write id (w.nameOf id) (.putIn container (w.nameOf container))

def takeOut (id : ObjectId) : InPlace WorldError ObjectId := do
  ensure id
  if ((← get).containerOf? id).isNone then
    throw (.notContained id)
  let cell ← findCell
  let container ← unlink id
  move id (some cell)
  let w ← get
  write id (w.nameOf id) (.takeOut container (w.nameOf container))
  return container

def remove (id : ObjectId) : InPlace WorldFailure Object := do
  refusing (ensure id)
  let parent := (← get).containerOf? id
  if parent.isNone then
    ensureRoom id
  let removed ← refusing (drop id)
  modify fun w => w.unlink id
  forM ((← get).contentsOf id) (resettle parent)
  write id removed.name .destroy
  return removed

def advanceClock : InPlace ε Unit :=
  modify fun w => w.advanceClock

/-! ### Runs of the steps -/

@[simp] theorem run_write (id : ObjectId) (name : String) (kind : EventKind) (w : World) :
    (write id name kind : InPlace ε Unit).run w = .ok () (w.log id name kind) := rfl

theorem run_ensure (id : ObjectId) (w : World) :
    (ensure id).run w = if w.contains id then .ok () w else .error (.notFound id) w := by
  by_cases hid : w.contains id <;> simp [ensure, hid]

theorem run_require (id : ObjectId) (w : World) :
    (require id).run w =
      match w.find? id with
      | some o => .ok o w
      | none => .error (.notFound id) w := by
  simp only [require, EStateM.run_bind, EStateM.run_get]
  cases w.find? id <;> rfl

theorem run_checkName (name : Option String) (w : World) :
    (checkName name).run w =
      match name.filter fun name => (w.named? name).isSome with
      | some name => .error (.duplicateName name) w
      | none => .ok () w := by
  cases name with
  | none => rfl
  | some name =>
    by_cases htaken : (w.named? name).isSome <;> simp [checkName, htaken, Option.filter]

theorem run_findCell (w : World) :
    findCell.run w =
      match w.freeCell? with
      | some cell => .ok cell w
      | none => .error w.fullError w := by
  simp only [findCell, EStateM.run_bind, EStateM.run_get]
  cases w.freeCell? <;> rfl

theorem run_move (id : ObjectId) (position : Option Cell) (w : World) :
    (move id position).run w =
      match w.find? id with
      | some _ => .ok () (w.modify id (moveTo position))
      | none => .error (.notFound id) w := by
  simp only [move, EStateM.run_bind, run_require]
  cases w.find? id <;> rfl

theorem run_unlink (id : ObjectId) (w : World) :
    (unlink id).run w =
      match w.containerOf? id with
      | some container => .ok container (w.unlink id)
      | none => .error (.notContained id) w := by
  simp only [unlink, EStateM.run_bind, EStateM.run_get]
  cases w.containerOf? id <;> rfl

theorem run_drop (id : ObjectId) (w : World) :
    (drop id).run w =
      match w.find? id with
      | some o => .ok o { w with objects := w.objects.filter fun other => other.id != id }
      | none => .error (.notFound id) w := by
  simp only [drop, EStateM.run_bind, run_require]
  cases w.find? id <;> rfl

@[simp] theorem run_refusing (program : InPlace WorldError α) (w : World) :
    (refusing program).run w =
      match program.run w with
      | .ok a next => .ok a next
      | .error cause next => .error (.refused cause) next := by
  rw [refusing, EStateM.run_adaptExcept]
  cases program.run w <;> rfl

theorem run_ensureRoom {id : ObjectId} {o : Object} {w : World} (hfind : w.find? id = some o) :
    (ensureRoom id).run w =
      match w.checkRoom id o.position.isSome with
      | .ok () => .ok () w
      | .error cause => .error cause w := by
  rw [ensureRoom, World.checkRoom, EStateM.run_bind, EStateM.run_get]
  dsimp only
  cases w.freeCellCount? with
  | none => rfl
  | some count =>
    by_cases hfull : count + (if o.position.isSome then 1 else 0) < (w.contentsOf id).length
    · simp [hfind, hfull]
    · simp [hfind, hfull]

theorem run_resettle (parent : Option ObjectId) (children : List ObjectId) (w : World) :
    (forM children (resettle parent) : InPlace ε Unit).run w =
      .ok () (w.spill parent children) := by
  induction children generalizing w with
  | nil => rfl
  | cons child children ih =>
    cases parent with
    | none => simp [resettle, World.spill, ih]
    | some container => simp [resettle, World.spill, ih]

theorem unlink_objects (w : World) (objects : List Object) (id : ObjectId) :
    World.unlink { w with objects := objects } id = { w.unlink id with objects := objects } := rfl

theorem fallbackName_nextId (w : World) (nextId id : ObjectId) :
    World.fallbackName { w with nextId := nextId } id = w.fallbackName id := by
  have hextend : ∀ tries name,
      World.extendName { w with nextId := nextId } name tries = w.extendName name tries := by
    intro tries
    induction tries with
    | zero => exact fun name => rfl
    | succ tries ih =>
      intro name
      rw [World.extendName, World.extendName, ih]
      rfl
  exact hextend _ _

/-! ### Runs of the programs -/

/-- How a program ends that does what a function says and changes nothing if it fails. -/
@[simp] def ending (w : World) : Except ε (α × World) → EStateM.Result ε World α
  | .error cause => .error cause w
  | .ok (a, next) => .ok a next

theorem run_create (blueprint : Blueprint) (w : World) :
    (create blueprint).run w = ending w (w.create blueprint) := by
  rw [create, World.create]
  cases hname : blueprint.name.filter fun name => (w.named? name).isSome with
  | some name => simp [run_checkName, hname]
  | none =>
    cases hfree : w.freeCell? with
    | none => simp [run_checkName, run_findCell, hname, hfree]
    | some cell =>
      simp [-bind_pure_comp, run_checkName, run_findCell, hname, hfree, fallbackName_nextId,
        Blueprint.build]

theorem run_setOwner (id : ObjectId) (owner : Owner) (w : World) :
    (setOwner id owner).run w = ending w ((w.setOwner id owner).map ((), ·)) := by
  rw [setOwner, World.setOwner]
  cases hfind : w.find? id with
  | none => simp [run_require, hfind, Except.map]
  | some o => by_cases howner : o.owner = owner <;> simp [run_require, hfind, howner, Except.map]

theorem run_putInto (id container : ObjectId) (w : World) :
    (putInto id container).run w = ending w ((w.putInto id container).map ((), ·)) := by
  rw [putInto, World.putInto]
  by_cases hid : w.contains id
  · by_cases hcontainer : w.contains container
    · by_cases hitself : id = container
      · simp [run_ensure, hcontainer, hitself, Except.map]
      · by_cases hinside : w.isInside container id
        · simp [run_ensure, hid, hcontainer, hitself, hinside, Except.map]
        · obtain ⟨o, hfind⟩ := World.contains_iff.mp hid
          simp [run_ensure, run_move, hid, hcontainer, hitself, hinside, hfind, Except.map]
    · simp [run_ensure, hid, hcontainer, Except.map]
  · simp [run_ensure, hid, Except.map]

theorem run_takeOut (id : ObjectId) (w : World) :
    (takeOut id).run w = ending w (w.takeOut id) := by
  rw [takeOut, World.takeOut]
  by_cases hid : w.contains id
  · cases hcontainer : w.containerOf? id with
    | none => simp [run_ensure, hid, hcontainer]
    | some container =>
      cases hfree : w.freeCell? with
      | none => simp [run_ensure, run_findCell, hid, hcontainer, hfree]
      | some cell =>
        obtain ⟨o, hfind⟩ := World.contains_iff.mp hid
        simp [-bind_pure_comp, run_ensure, run_findCell, run_unlink, run_move, hid, hcontainer, hfree,
          hfind]
  · simp [run_ensure, hid]

theorem run_remove (id : ObjectId) (w : World) :
    (remove id).run w = ending w (w.remove id) := by
  rw [remove]
  cases hfind : w.find? id with
  | none => simp [run_ensure, World.contains, World.remove, hfind]
  | some o =>
    have hid := World.contains_of_find? hfind
    rw [World.remove_of_find? hfind, World.emptiedOut, World.without]
    cases hparent : w.containerOf? id with
    | none =>
      cases hcheck : w.checkRoom id o.position.isSome with
      | error cause => simp [run_ensure, run_ensureRoom hfind, hid, hparent, hcheck, Except.map]
      | ok =>
        simp [-bind_pure_comp, run_ensure, run_ensureRoom hfind, run_drop, run_resettle,
          unlink_objects, hid, hfind, hparent, hcheck, Except.map]
    | some container =>
      simp [-bind_pure_comp, run_ensure, run_drop, run_resettle, unlink_objects, hid, hfind, hparent,
        Except.map]

/-! ### Programs as calls -/

theorem run_refusing_unit {program : InPlace WorldError Unit} {r : Except WorldError World}
    (hrun : program.run w = ending w (r.map ((), ·))) :
    (refusing program).run w = ending w ((r.mapError .refused).map ((), ·)) := by
  rw [run_refusing, hrun]
  cases r <;> rfl

/-- What a program gives is thrown away. -/
theorem run_discard {program : InPlace ε α} {r : Except ε (α × World)}
    (hrun : program.run w = ending w r) :
    (do let _ ← program : InPlace ε Unit).run w = ending w ((r.map Prod.snd).map ((), ·)) := by
  rw [EStateM.run_bind, hrun]
  cases r <;> rfl

end InPlace

namespace World

variable {w next : World}

/-! ### Calls -/

def Operation.inPlace : Operation → InPlace WorldFailure Unit
  | create blueprint => InPlace.refusing do let _ ← InPlace.create blueprint
  | setOwner id owner => InPlace.refusing (InPlace.setOwner id owner)
  | putInto id container => InPlace.refusing (InPlace.putInto id container)
  | takeOut id => InPlace.refusing do let _ ← InPlace.takeOut id
  | remove id => do let _ ← InPlace.remove id
  | advanceClock => InPlace.advanceClock

/-- The object that a call is about; a new one takes the next id. -/
def Operation.subject? (w : World) : Operation → Option ObjectId
  | create _ => some w.nextId
  | setOwner id _ => some id
  | putInto id _ => some id
  | takeOut id => some id
  | remove id => some id
  | advanceClock => none

def Operation.KeepsOwner (w : World) : Operation → Prop
  | setOwner id owner => ∃ o, w.find? id = some o ∧ o.owner = owner
  | _ => False

theorem Operation.run_inPlace (op : Operation) (w : World) :
    op.inPlace.run w = InPlace.ending w ((op.result w).map ((), ·)) := by
  cases op with
  | create blueprint =>
    exact InPlace.run_refusing_unit (InPlace.run_discard (InPlace.run_create blueprint w))
  | setOwner id owner => exact InPlace.run_refusing_unit (InPlace.run_setOwner id owner w)
  | putInto id container => exact InPlace.run_refusing_unit (InPlace.run_putInto id container w)
  | takeOut id => exact InPlace.run_refusing_unit (InPlace.run_discard (InPlace.run_takeOut id w))
  | remove id => exact InPlace.run_discard (InPlace.run_remove id w)
  | advanceClock => rfl

theorem Operation.result_of_keepsOwner {op : Operation} (hkeeps : op.KeepsOwner w) :
    op.result w = .ok w := by
  cases op with
  | setOwner id owner =>
    obtain ⟨o, hfind, howner⟩ := hkeeps
    rw [result, World.setOwner, hfind]
    dsimp only
    rw [if_pos howner]
    rfl
  | _ => exact hkeeps.elim

theorem Operation.events_of_result {op : Operation} (hchanges : ¬ op.KeepsOwner w)
    (hok : op.result w = .ok next) : ∃ added, next.events = w.events ++ added ∧
      added.map Event.object = (op.subject? w).toList := by
  cases op with
  | create blueprint =>
    obtain ⟨⟨id, _⟩, hcreate, rfl⟩ := map_eq_ok (mapError_eq_ok hok)
    obtain ⟨rfl, -, cell, -, rfl⟩ := create_eq_ok hcreate
    exact ⟨_, rfl, rfl⟩
  | setOwner id owner =>
    obtain ⟨o, hfind, ⟨howner, rfl⟩ | ⟨-, rfl⟩⟩ := setOwner_eq_ok (mapError_eq_ok hok)
    · exact absurd ⟨o, hfind, howner⟩ hchanges
    · exact ⟨_, rfl, rfl⟩
  | putInto id container =>
    obtain ⟨-, -, -, -, rfl⟩ := putInto_eq_ok (mapError_eq_ok hok)
    exact ⟨_, rfl, rfl⟩
  | takeOut id =>
    obtain ⟨⟨container, _⟩, htake, rfl⟩ := map_eq_ok (mapError_eq_ok hok)
    obtain ⟨-, -, cell, -, rfl⟩ := takeOut_eq_ok htake
    exact ⟨_, rfl, rfl⟩
  | remove id =>
    obtain ⟨⟨o, _⟩, hremove, rfl⟩ := map_eq_ok hok
    obtain ⟨-, -, rfl⟩ := remove_eq_ok hremove
    have hframe := sameFrame_spill (w.containerOf? id) ((w.without id).contentsOf id) (w.without id)
    exact ⟨_, congrArg (· ++ _) hframe.events, rfl⟩
  | advanceClock =>
    cases hok
    exact ⟨[], (List.append_nil _).symm, rfl⟩

/-- A call that fails in place leaves the whole world as it was. One that succeeds adds one event to
the log, which is about the object of the call; but handing an object to its owner changes nothing,
and the passing of time is not logged. -/
theorem inPlace_atomic (w : World) (op : Operation) :
    (∀ cause next, op.inPlace.run w = .error cause next ↔ op.result w = .error cause ∧ next = w) ∧
    (∀ next, op.inPlace.run w = .ok () next ↔ op.result w = .ok next) ∧
    (op.KeepsOwner w → op.result w = .ok w) ∧
    (¬ op.KeepsOwner w → ∀ next, op.result w = .ok next → ∃ added,
      next.events = w.events ++ added ∧ added.map Event.object = (op.subject? w).toList) := by
  rw [op.run_inPlace]
  refine ⟨fun cause next => ?_, fun next => ?_, Operation.result_of_keepsOwner,
    fun hchanges next => Operation.events_of_result hchanges⟩
  · cases op.result w <;> simp [Except.map, eq_comm]
  · cases op.result w <;> simp [Except.map]

end World

end Apprentice
