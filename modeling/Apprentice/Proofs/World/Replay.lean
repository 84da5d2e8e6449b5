import Apprentice.Proofs.World.Run
import Mathlib.Logic.Function.Basic

/-!
# Replaying the log

The log alone tells which objects there are, and which object lies in which: a register that enters
one event after the other has, at every time, the live objects and the links of the world. Every
operation writes one event at most. So it is enough to see that entering this event changes the
register as the operation changes the world, and to go through the run.

Where contents go when their container is destroyed stands in no event of their own. The register
knows it all the same, from the place of the container.
-/

namespace Apprentice

/-! ### The register -/

/-- The live objects, in the order in which they were made, and the containers of those that are
contained. -/
structure Register where
  live : List ObjectId := []
  containerOf : ObjectId → Option ObjectId := fun _ => none

namespace Register

def place (r : Register) (id : ObjectId) (container : Option ObjectId) : Register :=
  { r with containerOf := Function.update r.containerOf id container }

/-- Strikes an object off. What is in it comes to where the object was itself: into its container,
or into the open. -/
def strike (r : Register) (id : ObjectId) : Register where
  live := r.live.filter fun other => other != id
  containerOf := fun x =>
    if r.containerOf x = some id then r.containerOf id
    else if x = id then none else r.containerOf x

/-- Enters an event. Nothing can be taken out of a container that it is not in. -/
def enter (r : Register) (e : Event) : Option Register :=
  match e.kind with
  | .create => some ({ r with live := r.live ++ [e.object] }.place e.object none)
  | .destroy => some (r.strike e.object)
  | .transfer .. => some r
  | .putIn container _ => some (r.place e.object (some container))
  | .takeOut container _ =>
    if r.containerOf e.object = some container then some (r.place e.object none) else none

/-- Enters the events of a log, the oldest first. -/
def replay (events : List Event) : Option Register :=
  events.foldlM enter {}

theorem replay_concat {events : List Event} {r : Register} (hreplay : replay events = some r)
    (e : Event) : replay (events ++ [e]) = r.enter e := by
  rw [replay, List.foldlM_append]
  change (replay events >>= fun r => [e].foldlM enter r) = _
  rw [hreplay]
  change (r.enter e >>= fun r => some r) = _
  cases r.enter e <;> rfl

end Register

namespace World

variable {w next : World} {id container x : ObjectId} {o : Object}

/-- What the register of a world has to be. -/
def register (w : World) : Register :=
  ⟨w.ids, w.containerOf?⟩

/-- The name and the owner of a live object. -/
def standing (w : World) (id : ObjectId) : Option (String × Owner) :=
  (w.find? id).map fun o => (o.name, o.owner)

theorem standing_eq_some (hfind : w.find? id = some o) :
    w.standing id = some (o.name, o.owner) := by
  rw [standing, hfind]
  rfl

/-! ### What an event tells -/

/-- What an event of a kind makes of the standing of its object, which has the given name. -/
inductive Turn (name : String) :
    EventKind → Option (String × Owner) → Option (String × Owner) → Prop
  | create {owner} : Turn name .create none (some (name, owner))
  | destroy {owner} : Turn name .destroy (some (name, owner)) none
  | transfer {source target} (hne : source ≠ target) :
      Turn name (.transfer source target) (some (name, source)) (some (name, target))
  | putIn {owner container containerName} :
      Turn name (.putIn container containerName) (some (name, owner)) (some (name, owner))
  | takeOut {owner container containerName} :
      Turn name (.takeOut container containerName) (some (name, owner)) (some (name, owner))

theorem Turn.exists_after {name : String} {before after : Option (String × Owner)}
    (hturn : Turn name .create before after) : ∃ owner, after = some (name, owner) := by
  cases hturn
  exact ⟨_, rfl⟩

theorem Turn.exists_before {name : String} {kind : EventKind}
    {before after : Option (String × Owner)} (hturn : Turn name kind before after)
    (hkind : kind ≠ .create) : ∃ standing, before = some standing := by
  cases hturn with
  | create => exact absurd rfl hkind
  | _ => exact ⟨_, rfl⟩

/-- Whether an event tells the way from one world to the next. It is the only one that is new, and
it changes the register as the world was changed. Of the names and owners of objects, only those of
its own object change, and as it says. -/
structure Tells (w next : World) (e : Event) : Prop where
  events : next.events = w.events ++ [e]
  id : e.id = w.events.length + 1
  time : e.time = w.time
  clock : next.time = w.time
  register : w.register.enter e = some next.register
  turn : Turn e.name e.kind (w.standing e.object) (next.standing e.object)
  others : ∀ x, x ≠ e.object → next.standing x = w.standing x
  numbered : (e.kind = .create ∧ e.object = w.nextId ∧ next.nextId = w.nextId + 1) ∨
    (e.kind ≠ .create ∧ e.object ∈ w.ids ∧ next.nextId = w.nextId)
  named : ∀ container name, e.kind = .putIn container name ∨ e.kind = .takeOut container name →
    ∃ owner, w.standing container = some (name, owner)

/-- A step that tells nothing: the objects and the links stay, and time may pass. -/
structure Silent (w next : World) : Prop where
  events : next.events = w.events
  clock : w.time ≤ next.time
  nextId : next.nextId = w.nextId
  register : next.register = w.register
  standing : next.standing = w.standing

/-! ### Standings after changes -/

theorem standing_modify_moveTo (w : World) (id : ObjectId) (position : Option Cell) :
    (w.modify id (moveTo position)).standing = w.standing := by
  funext x
  rw [standing, standing, find?_modify_moveTo]
  by_cases hx : x = id
  · rw [if_pos hx, Option.map_map]
    rfl
  · rw [if_neg hx]

theorem standing_spill (parent : Option ObjectId) (children : List ObjectId) (w : World) :
    (w.spill parent children).standing = w.standing := by
  induction children generalizing w with
  | nil => rfl
  | cons child children ih =>
      cases parent with
      | some container => exact ih (w.link child container)
      | none => exact (ih _).trans (standing_modify_moveTo (w.unlink child) child _)

theorem standing_emptiedOut (w : World) (id x : ObjectId) :
    (w.emptiedOut id).standing x = if x = id then none else w.standing x := by
  rw [emptiedOut, standing_spill, standing, find?_without]
  by_cases hx : x = id
  · rw [if_pos hx, if_pos hx]
    rfl
  · rw [if_neg hx, if_neg hx]
    rfl

theorem ids_without_eq (w : World) (id : ObjectId) :
    (w.without id).ids = w.ids.filter fun other => other != id := by
  rw [ids, ids, List.filter_map]
  rfl

theorem exists_standing (hcontains : w.contains id = true) :
    ∃ owner, w.standing id = some (w.nameOf id, owner) := by
  obtain ⟨o, hfind⟩ := contains_iff.mp hcontains
  refine ⟨o.owner, ?_⟩
  rw [standing_eq_some hfind, nameOf, hfind]

/-! ### The operations -/

theorem tells_create (hsound : w.Sound) (hid : o.id = w.nextId) :
    Tells w ((w.withObject o).log o.id o.name .create)
      ⟨w.events.length + 1, w.time, o.id, o.name, .create⟩ where
  events := rfl
  id := rfl
  time := rfl
  clock := rfl
  register := by
    have hlinks : Function.update w.containerOf? o.id none = w.containerOf? := by
      rw [hid, ← hsound.numbered.containerOf?_nextId hsound.forest, Function.update_eq_self]
    change some (Register.mk (w.ids ++ [o.id]) (Function.update w.containerOf? o.id none)) =
      some (Register.mk (w.withObject o).ids w.containerOf?)
    rw [hlinks, ids_withObject]
  turn := by
    have hbefore : w.standing o.id = none := by
      rw [standing, hid, hsound.numbered.find?_nextId]
      rfl
    have hafter : (w.withObject o).standing o.id = some (o.name, o.owner) := by
      refine standing_eq_some ?_
      rw [hsound.numbered.find?_withObject hid, if_pos rfl]
    change Turn o.name .create (w.standing o.id) ((w.withObject o).standing o.id)
    rw [hbefore, hafter]
    exact .create
  others := by
    intro x hx
    change (w.withObject o).standing x = w.standing x
    rw [standing, hsound.numbered.find?_withObject hid, if_neg hx]
    rfl
  numbered := .inl ⟨rfl, hid, rfl⟩
  named := by
    rintro container name (hkind | hkind) <;> cases hkind

theorem tells_transfer (hfind : w.find? id = some o) {owner : Owner}
    (hne : o.owner ≠ owner) :
    Tells w ((w.modify id fun o => { o with owner := owner }).log id o.name
        (.transfer o.owner owner))
      ⟨w.events.length + 1, w.time, id, o.name, .transfer o.owner owner⟩ where
  events := rfl
  id := rfl
  time := rfl
  clock := rfl
  register := by
    have hids := ids_modify (f := fun o => { o with owner := owner }) (fun _ => rfl) w id
    change some (Register.mk w.ids w.containerOf?) = some (Register.mk _ w.containerOf?)
    rw [← hids]
    rfl
  turn := by
    have hafter : (w.modify id fun o => { o with owner := owner }).standing id =
        some (o.name, owner) := by
      rw [standing, find?_modify (f := fun o => { o with owner := owner }) (fun _ => rfl),
        if_pos rfl, hfind]
      rfl
    change Turn o.name (.transfer o.owner owner) (w.standing id)
      ((w.modify id fun o => { o with owner := owner }).standing id)
    rw [standing_eq_some hfind, hafter]
    exact .transfer hne
  others := by
    intro x hx
    change (w.modify id fun o => { o with owner := owner }).standing x = w.standing x
    rw [standing, find?_modify (f := fun o => { o with owner := owner }) (fun _ => rfl), if_neg hx]
    rfl
  numbered := .inr ⟨nofun, contains_iff_mem_ids.mp (contains_of_find? hfind), rfl⟩
  named := by
    rintro container name (hkind | hkind) <;> cases hkind

theorem tells_putIn (hid : w.contains id = true)
    (hcontainer : w.contains container = true) :
    Tells w (((w.link id container).modify id (moveTo none)).log id (w.nameOf id)
        (.putIn container (w.nameOf container)))
      ⟨w.events.length + 1, w.time, id, w.nameOf id, .putIn container (w.nameOf container)⟩ where
  events := rfl
  id := rfl
  time := rfl
  clock := rfl
  register := by
    have hids := ids_modify (f := moveTo none) (fun _ => rfl) (w.link id container) id
    have hlinks : (w.link id container).containerOf? =
        Function.update w.containerOf? id (some container) := by
      funext x
      rw [containerOf?_link, Function.update_apply]
    change some (Register.mk w.ids _) = some (Register.mk _ (w.link id container).containerOf?)
    rw [hlinks]
    change _ = some (Register.mk ((w.link id container).modify id (moveTo none)).ids _)
    rw [hids]
    rfl
  turn := by
    obtain ⟨owner, hstanding⟩ := exists_standing hid
    change Turn (w.nameOf id) (.putIn container (w.nameOf container)) (w.standing id)
      (((w.link id container).modify id (moveTo none)).standing id)
    rw [standing_modify_moveTo]
    change Turn _ _ _ (w.standing id)
    rw [hstanding]
    exact .putIn
  others := by
    intro x _
    exact congrFun (standing_modify_moveTo (w.link id container) id none) x
  numbered := .inr ⟨nofun, contains_iff_mem_ids.mp hid, rfl⟩
  named := by
    rintro other name (hkind | hkind)
    · cases hkind
      exact exists_standing hcontainer
    · cases hkind

theorem tells_takeOut (hsound : w.Sound) (hid : w.contains id = true)
    (hcontainer : w.containerOf? id = some container) (cell : Cell) :
    Tells w (((w.unlink id).modify id (moveTo (some cell))).log id (w.nameOf id)
        (.takeOut container (w.nameOf container)))
      ⟨w.events.length + 1, w.time, id, w.nameOf id, .takeOut container (w.nameOf container)⟩ where
  events := rfl
  id := rfl
  time := rfl
  clock := rfl
  register := by
    have hids := ids_modify (f := moveTo (some cell)) (fun _ => rfl) (w.unlink id) id
    have hlinks : (w.unlink id).containerOf? = Function.update w.containerOf? id none := by
      funext x
      rw [containerOf?_unlink, Function.update_apply]
    change (if w.containerOf? id = some container then _ else none) =
      some (Register.mk _ (w.unlink id).containerOf?)
    rw [if_pos hcontainer, hlinks]
    change _ = some (Register.mk ((w.unlink id).modify id (moveTo (some cell))).ids _)
    rw [hids]
    rfl
  turn := by
    obtain ⟨owner, hstanding⟩ := exists_standing hid
    change Turn (w.nameOf id) (.takeOut container (w.nameOf container)) (w.standing id)
      (((w.unlink id).modify id (moveTo (some cell))).standing id)
    rw [standing_modify_moveTo]
    change Turn _ _ _ (w.standing id)
    rw [hstanding]
    exact .takeOut
  others := by
    intro x _
    exact congrFun (standing_modify_moveTo (w.unlink id) id (some cell)) x
  numbered := .inr ⟨nofun, contains_iff_mem_ids.mp hid, rfl⟩
  named := by
    rintro other name (hkind | hkind)
    · cases hkind
    · cases hkind
      exact exists_standing (hsound.forest.live hcontainer).2

theorem tells_destroy (hsound : w.Sound) (hfind : w.find? id = some o) :
    Tells w ((w.emptiedOut id).log id o.name .destroy)
      ⟨w.events.length + 1, w.time, id, o.name, .destroy⟩ where
  events := by
    have hframe := sameFrame_spill (w.containerOf? id) ((w.without id).contentsOf id) (w.without id)
    have hevents : (w.emptiedOut id).events = w.events := hframe.events
    have htime : (w.emptiedOut id).time = w.time := hframe.time
    rw [log, hevents, htime]
  id := rfl
  time := rfl
  clock := (sameFrame_spill _ _ _).time
  register := by
    have hlinks : (w.emptiedOut id).containerOf? = (w.register.strike id).containerOf :=
      funext (hsound.forest.containerOf?_emptiedOut id)
    have hids : (w.emptiedOut id).ids = (w.register.strike id).live :=
      (ids_emptiedOut w id).trans (ids_without_eq w id)
    change some (w.register.strike id) =
      some (Register.mk (w.emptiedOut id).ids (w.emptiedOut id).containerOf?)
    rw [hlinks, hids]
  turn := by
    have hafter : (w.emptiedOut id).standing id = none := by
      rw [standing_emptiedOut, if_pos rfl]
    change Turn o.name .destroy (w.standing id) ((w.emptiedOut id).standing id)
    rw [standing_eq_some hfind, hafter]
    exact .destroy
  others := by
    intro x hx
    change (w.emptiedOut id).standing x = w.standing x
    rw [standing_emptiedOut, if_neg hx]
  numbered := .inr ⟨nofun,
    contains_iff_mem_ids.mp (contains_of_find? hfind),
    (sameFrame_spill _ _ _).nextId⟩
  named := by
    rintro container name (hkind | hkind) <;> cases hkind

/-- A step either tells nothing or is told by one event. -/
theorem Sound.step_cases (hsound : w.Sound) {given : List ObjectId} (hstep : Step w given next) :
    Silent w next ∨ ∃ e, Tells w next e := by
  cases hstep with
  | create hok =>
      obtain ⟨rfl, -, cell, -, rfl⟩ := create_eq_ok hok
      exact .inr ⟨_, tells_create hsound rfl⟩
  | setOwner hok =>
      obtain ⟨o, hfind, ⟨-, rfl⟩ | ⟨hne, rfl⟩⟩ := setOwner_eq_ok hok
      · exact .inl ⟨rfl, Nat.le_refl _, rfl, rfl, rfl⟩
      · exact .inr ⟨_, tells_transfer hfind hne⟩
  | putInto hok =>
      obtain ⟨hid, hcontainer, -, -, rfl⟩ := putInto_eq_ok hok
      exact .inr ⟨_, tells_putIn hid hcontainer⟩
  | takeOut hok =>
      obtain ⟨hid, hcontainer, cell, -, rfl⟩ := takeOut_eq_ok hok
      exact .inr ⟨_, tells_takeOut hsound hid hcontainer cell⟩
  | remove hok =>
      obtain ⟨hfind, -, rfl⟩ := remove_eq_ok hok
      exact .inr ⟨_, tells_destroy hsound hfind⟩
  | advanceClock => exact .inl ⟨rfl, Nat.le_succ _, rfl, rfl, rfl⟩

end World

end Apprentice
