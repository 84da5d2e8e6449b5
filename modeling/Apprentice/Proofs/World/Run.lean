import Apprentice.Proofs.World.Removal

/-!
# Runs of a world

What a world can come to from the empty one, by any operations in any order. An operation that fails
leaves the world as it was. Every change is logged, so a run ends where its log is full; nothing
else stops it.

The main result says what holds of a world after every run: objects lie inside each other without
cycles, and exactly those in the open have a cell, of the grid and of their own; and every id has
been given to one object.
-/

namespace Apprentice.World

variable {w next : World}

/-- A call of an operation. -/
inductive Operation where
  | create (blueprint : Blueprint)
  | setOwner (id : ObjectId) (owner : Owner)
  | putInto (id container : ObjectId)
  | takeOut (id : ObjectId)
  | remove (id : ObjectId)
  | advanceClock
  deriving Repr

/-- The world that a call makes, unless it fails. -/
def Operation.result (w : World) : Operation → Except WorldFailure World
  | create blueprint => ((w.create blueprint).map Prod.snd).mapError .refused
  | setOwner id owner => (w.setOwner id owner).mapError .refused
  | putInto id container => (w.putInto id container).mapError .refused
  | takeOut id => ((w.takeOut id).map Prod.snd).mapError .refused
  | remove id => (w.remove id).map Prod.snd
  | advanceClock => .ok w.advanceClock

/-- The id that a call gives to a new object. -/
def Operation.givenId? (w : World) : Operation → Option ObjectId
  | create blueprint => (w.create blueprint).toOption.map Prod.fst
  | _ => none

/-- The world after a call. -/
def perform (w : World) (op : Operation) : World :=
  (op.result w).toOption.getD w

/-- The most events that a log can hold. A log is one block of memory, and the length of a block is
at most the greatest 64-bit integer. -/
def logCapacity : Nat :=
  Int64.maxValue.toInt.toNat

/-- The world after a sequence of calls, unless its log is full before. -/
def run (w : World) : List Operation → Option World
  | [] => some w
  | op :: ops =>
    if (w.perform op).events.length ≤ logCapacity then (w.perform op).run ops else none

def idsGiven (w : World) : List Operation → List ObjectId
  | [] => []
  | op :: ops => (op.givenId? w).toList ++ (w.perform op).idsGiven ops

/-- A world that a run leads to from the empty one. -/
def Reachable (w : World) : Prop :=
  ∃ width height ops, (new width height).run ops = some w

/-! ### One operation -/

theorem Sound.log (hsound : w.Sound) (id : ObjectId) (name : String) (kind : EventKind) :
    (w.log id name kind).Sound where
  grid := hsound.grid.of_sides rfl rfl
  numbered := hsound.numbered.of_ids_eq rfl rfl
  forest := hsound.forest.of_containers_eq rfl (List.Subset.refl _)
  placed := hsound.placed.of_agree rfl rfl fun {_ o} hfind => ⟨o, hfind, rfl, rfl⟩

theorem Sound.create (hsound : w.Sound) {blueprint : Blueprint} {id : ObjectId}
    (hok : w.create blueprint = .ok (id, next)) : next.Sound := by
  obtain ⟨-, -, cell, hfree, rfl⟩ := create_eq_ok hok
  have hcell := hasCell_of_freeCell? hsound.grid hfree
  have huntaken := not_mem_takenCells_of_freeCell? hfree
  have hids : w.ids ⊆ (w.withObject (w.newObject blueprint cell)).ids := by
    rw [ids_withObject]
    exact List.subset_append_left _ _
  apply Sound.log
  exact {
    grid := hsound.grid.of_sides rfl rfl
    numbered := hsound.numbered.withObject rfl
    forest := hsound.forest.of_containers_eq rfl hids
    placed := hsound.placed.withObject hsound.numbered hsound.forest rfl rfl hcell huntaken }

theorem Sound.setOwner (hsound : w.Sound) {id : ObjectId} {owner : Owner}
    (hok : w.setOwner id owner = .ok next) : next.Sound := by
  obtain ⟨o, -, ⟨-, rfl⟩ | ⟨-, rfl⟩⟩ := setOwner_eq_ok hok
  · exact hsound
  · have hids := ids_modify (f := fun o => { o with owner := owner }) (fun _ => rfl) w id
    apply Sound.log
    refine ⟨hsound.grid.of_sides rfl rfl, hsound.numbered.of_ids_eq hids rfl,
      hsound.forest.of_containers_eq rfl (hids ▸ List.Subset.refl _),
      hsound.placed.of_agree rfl rfl fun {x p} hfind => ?_⟩
    rw [find?_modify (f := fun o => { o with owner := owner }) (fun _ => rfl)] at hfind
    split at hfind
    next =>
      obtain ⟨old, hold, rfl⟩ := Option.map_eq_some_iff.mp hfind
      exact ⟨old, hold, rfl, rfl⟩
    next => exact ⟨p, hfind, rfl, rfl⟩

theorem Sound.putInto (hsound : w.Sound) {id container : ObjectId}
    (hok : w.putInto id container = .ok next) : next.Sound := by
  obtain ⟨hid, hcontainer, hne, hinside, rfl⟩ := putInto_eq_ok hok
  have hforest := hsound.forest.link hid hcontainer hne
    fun hwithin => hinside (hsound.forest.isInside_iff.mpr hwithin)
  have hids := ids_modify (f := moveTo none) (fun _ => rfl) (w.link id container) id
  apply Sound.log
  exact {
    grid := hsound.grid.of_sides rfl rfl
    numbered := hsound.numbered.of_ids_eq hids rfl
    forest := hforest.of_containers_eq rfl (hids ▸ List.Subset.refl _)
    placed := hsound.placed.putIn id container }

theorem Sound.takeOut (hsound : w.Sound) {id container : ObjectId}
    (hok : w.takeOut id = .ok (container, next)) : next.Sound := by
  obtain ⟨-, -, cell, hfree, rfl⟩ := takeOut_eq_ok hok
  have hforest := hsound.forest.unlink id
  have hids := ids_modify (f := moveTo (some cell)) (fun _ => rfl) (w.unlink id) id
  apply Sound.log
  exact {
    grid := hsound.grid.of_sides rfl rfl
    numbered := hsound.numbered.of_ids_eq hids rfl
    forest := hforest.of_containers_eq rfl (hids ▸ List.Subset.refl _)
    placed := hsound.placed.takeOut (hasCell_of_freeCell? hsound.grid hfree)
      (not_mem_takenCells_of_freeCell? hfree) id }

theorem Sound.remove (hsound : w.Sound) {id : ObjectId} {o : Object}
    (hok : w.remove id = .ok (o, next)) : next.Sound := by
  obtain ⟨hfind, hcheck, rfl⟩ := remove_eq_ok hok
  exact (hsound.emptiedOut hfind hcheck).log id o.name .destroy

theorem Sound.advanceClock (hsound : w.Sound) : w.advanceClock.Sound where
  grid := hsound.grid.of_sides rfl rfl
  numbered := hsound.numbered.of_ids_eq rfl rfl
  forest := hsound.forest.of_containers_eq rfl (List.Subset.refl _)
  placed := hsound.placed.of_agree rfl rfl fun {_ o} hfind => ⟨o, hfind, rfl, rfl⟩

/-- A call that is carried out, the ids that it gives, and the world after it. -/
inductive Step (w : World) : List ObjectId → World → Prop where
  | create {blueprint id next} (hok : w.create blueprint = .ok (id, next)) : Step w [id] next
  | setOwner {id owner next} (hok : w.setOwner id owner = .ok next) : Step w [] next
  | putInto {id container next} (hok : w.putInto id container = .ok next) : Step w [] next
  | takeOut {id container next} (hok : w.takeOut id = .ok (container, next)) : Step w [] next
  | remove {id o next} (hok : w.remove id = .ok (o, next)) : Step w [] next
  | advanceClock : Step w [] w.advanceClock

/-- A call either fails, and then nothing happens, or is carried out. -/
theorem perform_cases (w : World) (op : Operation) :
    (w.perform op = w ∧ op.givenId? w = none) ∨
      Step w (op.givenId? w).toList (w.perform op) := by
  cases op with
  | create blueprint =>
    simp only [perform, Operation.result, Operation.givenId?]
    cases hok : w.create blueprint with
    | error cause => exact .inl ⟨rfl, rfl⟩
    | ok made => exact .inr (.create hok)
  | setOwner id owner =>
    simp only [perform, Operation.result]
    cases hok : w.setOwner id owner with
    | error cause => exact .inl ⟨rfl, rfl⟩
    | ok next => exact .inr (.setOwner hok)
  | putInto id container =>
    simp only [perform, Operation.result]
    cases hok : w.putInto id container with
    | error cause => exact .inl ⟨rfl, rfl⟩
    | ok next => exact .inr (.putInto hok)
  | takeOut id =>
    simp only [perform, Operation.result]
    cases hok : w.takeOut id with
    | error cause => exact .inl ⟨rfl, rfl⟩
    | ok taken => exact .inr (.takeOut hok)
  | remove id =>
    simp only [perform, Operation.result]
    cases hok : w.remove id with
    | error cause => exact .inl ⟨rfl, rfl⟩
    | ok removed => exact .inr (.remove hok)
  | advanceClock => exact .inr .advanceClock

theorem Sound.step (hsound : w.Sound) {given : List ObjectId} (hstep : Step w given next) :
    next.Sound := by
  cases hstep with
  | create hok => exact hsound.create hok
  | setOwner hok => exact hsound.setOwner hok
  | putInto hok => exact hsound.putInto hok
  | takeOut hok => exact hsound.takeOut hok
  | remove hok => exact hsound.remove hok
  | advanceClock => exact hsound.advanceClock

theorem Sound.perform (hsound : w.Sound) (op : Operation) : (w.perform op).Sound := by
  rcases perform_cases w op with ⟨hsame, -⟩ | hstep
  · rw [hsame]
    exact hsound
  · exact hsound.step hstep

/-! ### Ids over time -/

/-- What happens to ids: those that are given are the next ones, in order, only they are new among
the live ones, and each of them is logged. The grid stays. -/
structure Advances (w : World) (given : List ObjectId) (next : World) : Prop where
  width : next.width = w.width
  height : next.height = w.height
  given_eq : given = List.range' w.nextId given.length
  nextId : given.length + w.nextId = next.nextId
  events : given.length + w.events.length ≤ next.events.length
  live : ∀ id ∈ next.ids, id ∈ w.ids ∨ id ∈ given

theorem Advances.of_ids_subset (hwidth : next.width = w.width) (hheight : next.height = w.height)
    (hnext : next.nextId = w.nextId) (hevents : w.events.length ≤ next.events.length)
    (hlive : ∀ id ∈ next.ids, id ∈ w.ids) : Advances w [] next where
  width := hwidth
  height := hheight
  given_eq := rfl
  nextId := by rw [hnext, List.length_nil, Nat.zero_add]
  events := by rwa [List.length_nil, Nat.zero_add]
  live := fun id hid => .inl (hlive id hid)

theorem Advances.trans {given given' : List ObjectId} {last : World}
    (hfirst : Advances w given next) (hthen : Advances next given' last) :
    Advances w (given ++ given') last where
  width := hthen.width.trans hfirst.width
  height := hthen.height.trans hfirst.height
  given_eq := by
    rw [List.length_append, ← List.range'_append_1, ← hfirst.given_eq, Nat.add_comm w.nextId,
      hfirst.nextId, ← hthen.given_eq]
  nextId := by
    have hnext := hfirst.nextId
    have hlast := hthen.nextId
    rw [← hlast, ← hnext, List.length_append]
    omega
  events := by
    have hnext := hfirst.events
    have hlast := hthen.events
    rw [List.length_append]
    omega
  live := by
    intro id hid
    rw [List.mem_append]
    rcases hthen.live id hid with hold | hnew
    · exact (hfirst.live id hold).imp_right .inl
    · exact .inr (.inr hnew)

theorem Step.advances {given : List ObjectId} (hstep : Step w given next) :
    Advances w given next := by
  cases hstep with
  | create hok =>
    obtain ⟨rfl, -, cell, -, rfl⟩ := create_eq_ok hok
    refine ⟨rfl, rfl, rfl, Nat.add_comm 1 w.nextId, ?_, ?_⟩
    · simp [log, withObject, Nat.add_comm]
    · intro id hid
      change id ∈ (w.withObject _).ids at hid
      rwa [ids_withObject, List.mem_append] at hid
  | @setOwner id owner _ hok =>
    obtain ⟨o, -, ⟨-, rfl⟩ | ⟨-, rfl⟩⟩ := setOwner_eq_ok hok
    · exact .of_ids_subset rfl rfl rfl (Nat.le_refl _) fun _ hx => hx
    · have hids := ids_modify (f := fun o => { o with owner := owner }) (fun _ => rfl) w id
      exact .of_ids_subset rfl rfl rfl (by simp [log, modify]) fun _ hx => hids ▸ hx
  | @putInto id container _ hok =>
    obtain ⟨-, -, -, -, rfl⟩ := putInto_eq_ok hok
    have hids := ids_modify (f := moveTo none) (fun _ => rfl) (w.link id container) id
    exact .of_ids_subset rfl rfl rfl (by simp [log, modify, link, unlink]) fun _ hx => hids ▸ hx
  | @takeOut id container _ hok =>
    obtain ⟨-, -, cell, -, rfl⟩ := takeOut_eq_ok hok
    have hids := (sameFrame_move w id (some cell)).ids
    exact .of_ids_subset rfl rfl rfl (by simp [log, modify, unlink]) fun _ hx => hids ▸ hx
  | @remove id o _ hok =>
    obtain ⟨-, -, rfl⟩ := remove_eq_ok hok
    have hframe := sameFrame_spill (w.containerOf? id) ((w.without id).contentsOf id) (w.without id)
    refine .of_ids_subset hframe.width hframe.height hframe.nextId ?_ fun x hx => ?_
    · have hevents : (w.emptiedOut id).events = w.events := hframe.events
      simp [log, hevents]
    · exact (ids_without w id).subset (hframe.ids ▸ hx)
  | advanceClock => exact .of_ids_subset rfl rfl rfl (Nat.le_refl _) fun _ hx => hx

theorem advances_perform (w : World) (op : Operation) :
    Advances w (op.givenId? w).toList (w.perform op) := by
  rcases perform_cases w op with ⟨hsame, hnone⟩ | hstep
  · rw [hsame, hnone]
    exact .of_ids_subset rfl rfl rfl (Nat.le_refl _) fun _ hx => hx
  · exact hstep.advances

/-! ### Runs -/

theorem advances_run {ops : List Operation} (hrun : w.run ops = some next) :
    Advances w (w.idsGiven ops) next := by
  induction ops generalizing w with
  | nil =>
    cases hrun
    exact .of_ids_subset rfl rfl rfl (Nat.le_refl _) fun _ hx => hx
  | cons op ops ih =>
    rw [run] at hrun
    split at hrun
    next => exact (advances_perform w op).trans (ih hrun)
    next => cases hrun

/-- What every step from a sound world keeps holds after a run, and the world is sound then. -/
theorem Sound.run_induction {P : World → Prop} {ops : List Operation} (hsound : w.Sound)
    (hrun : w.run ops = some next) (hstart : P w)
    (hstep : ∀ {before after : World} {given : List ObjectId}, before.Sound → P before →
      Step before given after → P after) : next.Sound ∧ P next := by
  induction ops generalizing w with
  | nil =>
    cases hrun
    exact ⟨hsound, hstart⟩
  | cons op ops ih =>
    rw [World.run] at hrun
    split at hrun
    next =>
      refine ih (hsound.perform op) hrun ?_
      rcases perform_cases w op with ⟨hsame, -⟩ | hdone
      · rw [hsame]
        exact hstart
      · exact hstep hsound hstart hdone
    next => cases hrun

theorem Sound.run {ops : List Operation} (hsound : w.Sound) (hrun : w.run ops = some next) :
    next.Sound :=
  (hsound.run_induction (P := fun _ => True) hrun trivial fun _ _ _ => trivial).1

theorem sound_new (width height : UInt32) : (new width height).Sound where
  grid := by
    have hwidth := width.toNat_lt
    have hheight := height.toNat_lt
    constructor <;> simp only [new] <;> omega
  numbered := {
    ascending := .nil
    id_pos := fun _ hid => absurd hid List.not_mem_nil
    id_lt := fun _ hid => absurd hid List.not_mem_nil
    nextId_pos := Nat.one_pos }
  forest := by
    have hnone : ∀ a b, ¬ (new width height).DirectlyIn a b := fun a b hin => by cases hin
    refine ⟨.nil, fun hin => absurd hin (hnone _ _), fun id hcycle => ?_⟩
    obtain ⟨container, hin, -⟩ := Relation.TransGen.head'_iff.mp hcycle
    exact hnone id container hin
  placed := {
    open_iff := fun hfind => by cases hfind
    inside := fun hfind => by cases hfind
    apart := fun hfind => by cases hfind }

theorem Reachable.sound (hreachable : w.Reachable) : w.Sound := by
  obtain ⟨width, height, ops, hrun⟩ := hreachable
  exact (sound_new width height).run hrun

/-- After every run, the links form a forest of live objects; an object has no cell exactly if it
has a container; every cell is one of the grid and holds one object; and every object is found under
its id, which is below the next one and was given to no other object. -/
theorem run_sound (width height : UInt32) (ops : List Operation) {w : World}
    (hrun : (new width height).run ops = some w) :
    ((∀ link ∈ w.containers, w.contains link.1 = true ∧ w.contains link.2 = true) ∧
      ∀ id, ¬ Relation.TransGen (fun a b => w.containerOf? a = some b) id id) ∧
    (∀ o ∈ w.objects, o.position = none ↔ ∃ container, w.containerOf? o.id = some container) ∧
    (∀ o ∈ w.objects, ∀ cell, o.position = some cell →
      0 ≤ cell.x.toInt ∧ cell.x.toInt < (max width.toNat 1 : Nat) ∧
      0 ≤ cell.y.toInt ∧ cell.y.toInt < (max height.toNat 1 : Nat) ∧
      ∀ p ∈ w.objects, p.position = some cell → p = o) ∧
    (∀ o ∈ w.objects, w.find? o.id = some o ∧ o.id < w.nextId ∧
      o.id ∈ (new width height).idsGiven ops) ∧
    ((new width height).idsGiven ops).Nodup := by
  have hsound := (sound_new width height).run hrun
  have hadvances := advances_run hrun
  have hids := hsound.numbered.nodup
  have hfound : ∀ o ∈ w.objects, w.find? o.id = some o := fun o ho => find?_of_mem hids ho
  have hlive : ∀ o ∈ w.objects, o.id ∈ w.ids := fun o ho => List.mem_map.mpr ⟨o, ho, rfl⟩
  refine ⟨⟨fun link hlink => ?_, hsound.forest.acyclic⟩, fun o ho => ?_, fun o ho cell hcell => ?_,
    fun o ho => ⟨hfound o ho, hsound.numbered.id_lt _ (hlive o ho), ?_⟩, ?_⟩
  · exact hsound.forest.live ((containerOf?_eq_some_iff hsound.forest.linksAreMap).mpr hlink)
  · rw [hsound.placed.open_iff (hfound o ho), Option.isSome_iff_exists]
  · have hinside := hsound.placed.inside (hfound o ho) hcell
    rw [HasCell, hadvances.width, hadvances.height] at hinside
    refine ⟨hinside.1, hinside.2.1, hinside.2.2.1, hinside.2.2.2, fun p hp hsame => ?_⟩
    have heq := hsound.placed.apart (hfound p hp) (hfound o ho) hsame hcell
    exact List.inj_on_of_nodup_map hids hp ho heq
  · rcases hadvances.live o.id (hlive o ho) with hold | hgiven
    · cases hold
    · exact hgiven
  · rw [hadvances.given_eq]
    exact List.nodup_range'

/-- Two objects inside each other come into the open when the containers around them are removed,
and a third one is refused for want of a cell. -/
theorem run_sound_of_spill :
    ∃ w, (new 2 1).run
        [.create {}, .create {}, .create {}, .putInto 2 1, .create {}, .putInto 3 2, .remove 1,
          .takeOut 3, .create {}] = some w ∧
      w.ids = [2, 3] ∧
      ∀ o ∈ w.objects, o.position = none ↔ ∃ container, w.containerOf? o.id = some container := by
  have hends : (((new 2 1).run
      [.create {}, .create {}, .create {}, .putInto 2 1, .create {}, .putInto 3 2, .remove 1,
        .takeOut 3, .create {}]).map ids) = some [2, 3] := by
    decide +kernel
  obtain ⟨w, hrun, hids⟩ := Option.map_eq_some_iff.mp hends
  exact ⟨w, hrun, hids, (run_sound 2 1 _ hrun).2.1⟩

end Apprentice.World
