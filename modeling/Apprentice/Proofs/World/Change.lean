import Apprentice.Proofs.World.View

/-!
# What the operations do

One lemma for every operation of the world that can fail: what held before it if it was
carried out, and the world that came of it. Later proofs take an operation apart by its lemma and
never open its definition.
-/

namespace Apprentice.World

variable {w next : World} {id container : ObjectId} {o : Object}

/-- The object that `create` makes from a blueprint in a cell. -/
def newObject (w : World) (blueprint : Blueprint) (cell : Cell) : Object :=
  blueprint.build w.nextId (w.fallbackName w.nextId) (some cell)

def withObject (w : World) (o : Object) : World :=
  { w with objects := w.objects ++ [o], nextId := w.nextId + 1 }

/-- A world without one of its objects. What was in the object is where the object was itself. -/
def emptiedOut (w : World) (id : ObjectId) : World :=
  (w.without id).spill (w.containerOf? id) ((w.without id).contentsOf id)

theorem create_eq_ok {blueprint : Blueprint} (hok : w.create blueprint = .ok (id, next)) :
    id = w.nextId ∧ (∀ name, blueprint.name = some name → w.named? name = none) ∧
      ∃ cell, w.freeCell? = some cell ∧
        next = (w.withObject (w.newObject blueprint cell)).log id
          (w.newObject blueprint cell).name .create := by
  unfold create at hok
  split at hok
  next => cases hok
  next hname =>
    split at hok
    next => cases hok
    next cell hfree =>
      cases hok
      refine ⟨rfl, fun name hgiven => ?_, cell, hfree, rfl⟩
      have hunused := Option.filter_eq_none_iff.mp hname name hgiven
      simpa using hunused

theorem setOwner_eq_ok {owner : Owner} (hok : w.setOwner id owner = .ok next) :
    ∃ o, w.find? id = some o ∧
      ((o.owner = owner ∧ next = w) ∨
        (o.owner ≠ owner ∧
          next = (w.modify id fun o => { o with owner := owner }).log id o.name
            (.transfer o.owner owner))) := by
  unfold setOwner at hok
  split at hok
  next => cases hok
  next o hfind =>
    refine ⟨o, hfind, ?_⟩
    split at hok
    next howner => exact .inl ⟨howner, (Except.ok.inj hok).symm⟩
    next howner => exact .inr ⟨howner, (Except.ok.inj hok).symm⟩

theorem nameOf_modify_moveTo (w : World) (id : ObjectId) (position : Option Cell) (x : ObjectId) :
    (w.modify id (moveTo position)).nameOf x = w.nameOf x := by
  rw [nameOf, nameOf, find?_modify_moveTo]
  by_cases hx : x = id
  · rw [if_pos hx]
    cases w.find? x <;> rfl
  · rw [if_neg hx]

theorem putInto_eq_ok (hok : w.putInto id container = .ok next) :
    w.contains id = true ∧ w.contains container = true ∧ id ≠ container ∧
      ¬ w.isInside container id = true ∧
      next = ((w.link id container).modify id (moveTo none)).log id (w.nameOf id)
        (.putIn container (w.nameOf container)) := by
  unfold putInto at hok
  split at hok
  next => cases hok
  next hid =>
    split at hok
    next => cases hok
    next hcontainer =>
      split at hok
      next => cases hok
      next hne =>
        split at hok
        next => cases hok
        next hinside =>
          cases hok
          rw [nameOf_modify_moveTo, nameOf_modify_moveTo]
          exact ⟨by simpa using hid, by simpa using hcontainer, hne, hinside, rfl⟩

theorem takeOut_eq_ok (hok : w.takeOut id = .ok (container, next)) :
    w.contains id = true ∧ w.containerOf? id = some container ∧
      ∃ cell, w.freeCell? = some cell ∧
        next = ((w.unlink id).modify id (moveTo (some cell))).log id (w.nameOf id)
          (.takeOut container (w.nameOf container)) := by
  unfold takeOut at hok
  split at hok
  next => cases hok
  next hid =>
    split at hok
    next => cases hok
    next container hcontainer =>
      split at hok
      next => cases hok
      next cell hfree =>
        cases hok
        rw [nameOf_modify_moveTo, nameOf_modify_moveTo]
        exact ⟨by simpa using hid, hcontainer, cell, hfree, rfl⟩

theorem checkRoom_eq_ok {freed : Bool} (hok : w.checkRoom id freed = .ok ()) :
    ∃ count, w.freeCellCount? = some count ∧
      (w.contentsOf id).length ≤ count + (if freed then 1 else 0) := by
  unfold checkRoom at hok
  split at hok
  next => cases hok
  next count hcount =>
    by_cases hfull : count + (if freed then 1 else 0) < (w.contentsOf id).length
    · rw [if_pos hfull] at hok
      cases hok
    · exact ⟨count, hcount, Nat.not_lt.mp hfull⟩

/-- A removal stands or falls with the check of the room, which is only made in the open. -/
theorem remove_of_find? (hfind : w.find? id = some o) :
    w.remove id =
      (if w.containerOf? id = none then w.checkRoom id o.position.isSome else .ok ()).map
        fun _ => (o, (w.emptiedOut id).log id o.name .destroy) := by
  rw [remove, hfind, emptiedOut]
  cases hparent : w.containerOf? id with
  | none =>
    rw [if_pos rfl]
    cases hcheck : w.checkRoom id o.position.isSome with
    | error cause => simp [hcheck, Except.map]
    | ok => simp [hcheck, Except.map, without]
  | some container => rfl

theorem remove_eq_ok (hok : w.remove id = .ok (o, next)) :
    w.find? id = some o ∧
      (w.containerOf? id = none → w.checkRoom id o.position.isSome = .ok ()) ∧
      next = (w.emptiedOut id).log id o.name .destroy := by
  cases hfind : w.find? id with
  | none =>
    rw [remove, hfind] at hok
    cases hok
  | some found =>
    rw [remove_of_find? hfind] at hok
    split at hok
    next hopen =>
      cases hcheck : w.checkRoom id found.position.isSome with
      | error cause =>
        rw [hcheck] at hok
        cases hok
      | ok =>
        rw [hcheck] at hok
        cases hok
        exact ⟨rfl, fun _ => hcheck, rfl⟩
    next hinside =>
      cases hok
      exact ⟨rfl, fun hopen => absurd hopen hinside, rfl⟩

/-! ### What spilling leaves as it is -/

structure SameFrame (w next : World) : Prop where
  width : next.width = w.width
  height : next.height = w.height
  nextId : next.nextId = w.nextId
  events : next.events = w.events
  time : next.time = w.time
  ids : next.ids = w.ids

theorem SameFrame.trans {first second third : World} (h : SameFrame first second)
    (h' : SameFrame second third) : SameFrame first third :=
  ⟨h'.width.trans h.width, h'.height.trans h.height, h'.nextId.trans h.nextId,
    h'.events.trans h.events, h'.time.trans h.time, h'.ids.trans h.ids⟩

theorem sameFrame_move (w : World) (id : ObjectId) (position : Option Cell) :
    SameFrame w ((w.unlink id).modify id (moveTo position)) :=
  ⟨rfl, rfl, rfl, rfl, rfl, ids_modify (f := moveTo position) (fun _ => rfl) (w.unlink id) id⟩

theorem sameFrame_spill (parent : Option ObjectId) (children : List ObjectId) (w : World) :
    SameFrame w (w.spill parent children) := by
  induction children generalizing w with
  | nil => exact ⟨rfl, rfl, rfl, rfl, rfl, rfl⟩
  | cons child children ih =>
    cases parent with
    | none =>
      exact (sameFrame_move w child (w.unlink child).freeCell?).trans (ih _)
    | some container =>
      have hlink : SameFrame w (w.link child container) := ⟨rfl, rfl, rfl, rfl, rfl, rfl⟩
      exact hlink.trans (ih _)

theorem find?_spill_some (container : ObjectId) (children : List ObjectId) (w : World)
    (x : ObjectId) : (w.spill (some container) children).find? x = w.find? x := by
  induction children generalizing w with
  | nil => rfl
  | cons child children ih => exact ih (w.link child container)

end Apprentice.World
