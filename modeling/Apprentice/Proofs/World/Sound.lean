import Apprentice.Proofs.World.Cells
import Apprentice.Proofs.World.Change
import Apprentice.Proofs.World.Containment

/-!
# Sound worlds

The invariant of the world, in four parts: the sides of the grid are words, every id is given once,
the links form a forest, and an object has a cell of its own exactly if it is in no container. Every
operation keeps all four. The hard case is the removal of a container in the open, which spills its
contents: each of them must find a free cell, and the only reason why it does is the count that was
taken before. That count is exact because the taken cells are different cells of the grid.
-/

namespace Apprentice.World

variable {w next : World} {id container x : ObjectId} {o p : Object} {cell : Cell}

/-- The ids of the live objects ascend, from one on, and the next id is above all of them. -/
structure Numbered (w : World) : Prop where
  ascending : w.ids.Pairwise (· < ·)
  id_pos : ∀ id ∈ w.ids, 0 < id
  id_lt : ∀ id ∈ w.ids, id < w.nextId
  nextId_pos : 0 < w.nextId

/-- Where objects are: an object has no cell exactly if it has a container, cells are cells of the
grid, and no cell holds two objects. -/
structure Placed (w : World) : Prop where
  open_iff : ∀ {id o}, w.find? id = some o →
    (o.position = none ↔ (w.containerOf? id).isSome = true)
  inside : ∀ {id o cell}, w.find? id = some o → o.position = some cell → w.HasCell cell
  apart : ∀ {id other o p cell}, w.find? id = some o → w.find? other = some p →
    o.position = some cell → p.position = some cell → id = other

structure Sound (w : World) : Prop where
  grid : w.GridFits
  numbered : w.Numbered
  forest : w.Forest
  placed : w.Placed

/-! ### Ids -/

theorem Numbered.nodup (hnumbered : w.Numbered) : w.ids.Nodup :=
  hnumbered.ascending.imp Nat.ne_of_lt

theorem Numbered.find?_nextId (hnumbered : w.Numbered) : w.find? w.nextId = none := by
  apply find?_eq_none_of_not_contains
  intro hcontains
  exact Nat.lt_irrefl _ (hnumbered.id_lt _ (contains_iff_mem_ids.mp hcontains))

theorem Numbered.containerOf?_nextId (hnumbered : w.Numbered) (hforest : w.Forest) :
    w.containerOf? w.nextId = none := by
  rw [Option.eq_none_iff_forall_ne_some]
  intro container hin
  have hlive := (hforest.live hin).1
  exact Nat.lt_irrefl _ (hnumbered.id_lt _ (contains_iff_mem_ids.mp hlive))

theorem Numbered.length_objects_lt (hnumbered : w.Numbered) : w.objects.length < w.nextId := by
  have hnotMem : 0 ∉ w.ids := fun hzero => Nat.lt_irrefl 0 (hnumbered.id_pos 0 hzero)
  have hsubset : 0 :: w.ids ⊆ List.range w.nextId := by
    intro id hid
    rcases List.mem_cons.mp hid with rfl | hid
    · exact List.mem_range.mpr hnumbered.nextId_pos
    · exact List.mem_range.mpr (hnumbered.id_lt id hid)
  have hle := ((List.nodup_cons.mpr ⟨hnotMem, hnumbered.nodup⟩).subperm hsubset).length_le
  rwa [List.length_cons, List.length_range, ids, List.length_map] at hle

theorem Numbered.of_ids_eq (hnumbered : w.Numbered) (hids : next.ids = w.ids)
    (hnext : next.nextId = w.nextId) : next.Numbered where
  ascending := hids ▸ hnumbered.ascending
  id_pos := hids ▸ hnumbered.id_pos
  id_lt := by
    rw [hids, hnext]
    exact hnumbered.id_lt
  nextId_pos := hnext ▸ hnumbered.nextId_pos

theorem ids_without (w : World) (id : ObjectId) : (w.without id).ids.Sublist w.ids :=
  List.filter_sublist.map Object.id

theorem Numbered.without (hnumbered : w.Numbered) (id : ObjectId) : (w.without id).Numbered where
  ascending := hnumbered.ascending.sublist (ids_without w id)
  id_pos := fun x hx => hnumbered.id_pos x ((ids_without w id).subset hx)
  id_lt := fun x hx => hnumbered.id_lt x ((ids_without w id).subset hx)
  nextId_pos := hnumbered.nextId_pos

theorem ids_withObject (w : World) (o : Object) : (w.withObject o).ids = w.ids ++ [o.id] := by
  simp [ids, withObject]

theorem Numbered.withObject (hnumbered : w.Numbered) (hid : o.id = w.nextId) :
    (w.withObject o).Numbered where
  ascending := by
    rw [ids_withObject, List.pairwise_append]
    refine ⟨hnumbered.ascending, List.pairwise_singleton _ _, ?_⟩
    intro id hmem last hlast
    rw [List.mem_singleton.mp hlast, hid]
    exact hnumbered.id_lt id hmem
  id_pos := by
    intro id hmem
    rw [ids_withObject, List.mem_append, List.mem_singleton] at hmem
    rcases hmem with hold | rfl
    · exact hnumbered.id_pos id hold
    · exact hid ▸ hnumbered.nextId_pos
  id_lt := by
    intro id hmem
    rw [ids_withObject, List.mem_append, List.mem_singleton] at hmem
    rcases hmem with hold | rfl
    · exact Nat.lt_succ_of_lt (hnumbered.id_lt id hold)
    · exact hid ▸ Nat.lt_succ_self _
  nextId_pos := Nat.succ_pos _

theorem Numbered.find?_withObject (hnumbered : w.Numbered) (hid : o.id = w.nextId)
    (x : ObjectId) :
    (w.withObject o).find? x = if x = o.id then some o else w.find? x := by
  have happend : (w.withObject o).find? x = (w.find? x).or ([o].find? fun p => p.id == x) :=
    List.find?_append
  rw [happend]
  by_cases hx : x = o.id
  · have hnone : w.find? x = none := by
      rw [hx, hid]
      exact hnumbered.find?_nextId
    rw [hnone, Option.none_or, if_pos hx]
    simp [hx]
  · have hne : ¬ o.id = x := fun heq => hx heq.symm
    cases w.find? x <;> simp [hx, hne]

/-! ### Taken cells -/

theorem Placed.nodup_takenCells (hplaced : w.Placed) (hids : w.ids.Nodup) :
    w.takenCells.Nodup := by
  rw [takenCells, List.Nodup, List.pairwise_filterMap]
  refine (List.pairwise_map.mp hids).imp_of_mem ?_
  intro o p ho hp hne cell hcell other hother heq
  subst heq
  exact hne (hplaced.apart (find?_of_mem hids ho) (find?_of_mem hids hp) hcell hother)

theorem Placed.hasCell_of_mem_takenCells (hplaced : w.Placed) (hids : w.ids.Nodup) :
    ∀ cell ∈ w.takenCells, w.HasCell cell := by
  intro cell hmem
  obtain ⟨o, ho, hcell⟩ := mem_takenCells.mp hmem
  exact hplaced.inside (find?_of_mem hids ho) hcell

theorem mem_takenCells_of_find? (hfind : w.find? id = some o) (hcell : o.position = some cell) :
    cell ∈ w.takenCells :=
  mem_takenCells.mpr ⟨o, mem_of_find? hfind, hcell⟩

theorem length_takenCells_modify_le (hids : w.ids.Nodup) (id : ObjectId) (f : Object → Object) :
    (w.modify id f).takenCells.length ≤ w.takenCells.length + 1 := by
  simp only [takenCells, modify, ids, List.length_filterMap_eq_countP] at hids ⊢
  generalize w.objects = objects at hids ⊢
  induction objects with
  | nil => simp
  | cons o objects ih =>
    obtain ⟨hnew, hrest⟩ := List.nodup_cons.mp hids
    rw [List.map_cons, List.countP_cons, List.countP_cons]
    by_cases hid : o.id = id
    · have hothers : (objects.map fun p => if p.id == id then f p else p) = objects := by
        rw [List.map_congr_left (g := fun p => p), List.map_id']
        intro p hp
        have hne : p.id ≠ id := fun heq =>
          hnew (List.mem_map.mpr ⟨p, hp, heq.trans hid.symm⟩)
        simp [hne]
      rw [hothers]
      split <;> split <;> omega
    · have hsame : (if o.id == id then f o else o) = o := by simp [hid]
      have hle := ih hrest
      rw [hsame]
      omega

/-! ### Placing -/

/-- What counts for the places of objects is which cells they have and whether they are contained.
-/
theorem Placed.of_agree (hplaced : w.Placed) (hwidth : next.width = w.width)
    (hheight : next.height = w.height)
    (hagree : ∀ {x o}, next.find? x = some o → ∃ p, w.find? x = some p ∧
      p.position = o.position ∧ (next.containerOf? x).isSome = (w.containerOf? x).isSome) :
    next.Placed where
  open_iff := by
    intro id o hfind
    obtain ⟨p, hold, hposition, hcontained⟩ := hagree hfind
    rw [← hposition, hcontained]
    exact hplaced.open_iff hold
  inside := by
    intro id o cell hfind hcell
    obtain ⟨p, hold, hposition, _⟩ := hagree hfind
    rw [HasCell, hwidth, hheight]
    exact hplaced.inside hold (hposition.trans hcell)
  apart := by
    intro id other o p cell hfind hfind' hcell hcell'
    obtain ⟨_, hold, hposition, _⟩ := hagree hfind
    obtain ⟨_, hold', hposition', _⟩ := hagree hfind'
    exact hplaced.apart hold hold' (hposition.trans hcell) (hposition'.trans hcell')

/-- An object comes to a place: into a container, or into a cell of the grid that nothing takes. -/
theorem Placed.put (hplaced : w.Placed) (id : ObjectId) (parent : Option ObjectId)
    (hwidth : next.width = w.width) (hheight : next.height = w.height)
    (hfind : ∀ {x o}, next.find? x = some o → if x = id then
      (o.position = none ↔ parent.isSome = true) ∧
        ∀ cell, o.position = some cell → w.HasCell cell ∧ cell ∉ w.takenCells
      else w.find? x = some o)
    (hcontainer : ∀ x, next.containerOf? x = if x = id then parent else w.containerOf? x) :
    next.Placed where
  open_iff := by
    intro x o hx
    have hplace := hfind hx
    rw [hcontainer]
    by_cases heq : x = id
    · rw [if_pos heq] at hplace ⊢
      exact hplace.1
    · rw [if_neg heq] at hplace ⊢
      exact hplaced.open_iff hplace
  inside := by
    intro x o cell hx hcell
    have hplace := hfind hx
    rw [HasCell, hwidth, hheight]
    by_cases heq : x = id
    · rw [if_pos heq] at hplace
      exact (hplace.2 cell hcell).1
    · rw [if_neg heq] at hplace
      exact hplaced.inside hplace hcell
  apart := by
    intro x y o p cell hx hy hcell hcell'
    have hplace := hfind hx
    have hplace' := hfind hy
    by_cases heq : x = id <;> by_cases heq' : y = id
    · exact heq.trans heq'.symm
    · rw [if_pos heq] at hplace
      rw [if_neg heq'] at hplace'
      exact absurd (mem_takenCells_of_find? hplace' hcell') (hplace.2 cell hcell).2
    · rw [if_neg heq] at hplace
      rw [if_pos heq'] at hplace'
      exact absurd (mem_takenCells_of_find? hplace hcell) (hplace'.2 cell hcell').2
    · rw [if_neg heq] at hplace
      rw [if_neg heq'] at hplace'
      exact hplaced.apart hplace hplace' hcell hcell'

theorem Placed.putIn (hplaced : w.Placed) (id container : ObjectId) :
    ((w.link id container).modify id (moveTo none)).Placed := by
  refine hplaced.put id (some container) rfl rfl ?_ ?_
  · intro x o hfind
    rw [find?_modify_moveTo, find?_link] at hfind
    split at hfind
    next hx =>
      obtain ⟨p, _, rfl⟩ := Option.map_eq_some_iff.mp hfind
      rw [if_pos hx]
      exact ⟨by simp [moveTo], fun cell hcell => by cases hcell⟩
    next hx => rwa [if_neg hx]
  · intro x
    rw [containerOf?_modify, containerOf?_link]

theorem Placed.takeOut (hplaced : w.Placed) (hcell : w.HasCell cell)
    (hfree : cell ∉ w.takenCells) (id : ObjectId) :
    ((w.unlink id).modify id (moveTo (some cell))).Placed := by
  refine hplaced.put id none rfl rfl ?_ ?_
  · intro x o hfind
    rw [find?_modify_moveTo, find?_unlink] at hfind
    split at hfind
    next hx =>
      obtain ⟨p, _, rfl⟩ := Option.map_eq_some_iff.mp hfind
      rw [if_pos hx]
      refine ⟨by simp [moveTo], fun other hother => ?_⟩
      cases hother
      exact ⟨hcell, hfree⟩
    next hx => rwa [if_neg hx]
  · intro x
    rw [containerOf?_modify, containerOf?_unlink]

theorem Placed.withObject (hplaced : w.Placed) (hnumbered : w.Numbered) (hforest : w.Forest)
    (hid : o.id = w.nextId) (hposition : o.position = some cell) (hcell : w.HasCell cell)
    (hfree : cell ∉ w.takenCells) : (w.withObject o).Placed := by
  refine hplaced.put o.id none rfl rfl ?_ ?_
  · intro x p hfind
    rw [hnumbered.find?_withObject hid] at hfind
    split at hfind
    next hx =>
      cases hfind
      rw [if_pos hx, hposition]
      refine ⟨by simp, fun other hother => ?_⟩
      cases hother
      exact ⟨hcell, hfree⟩
    next hx => rwa [if_neg hx]
  · intro x
    by_cases hx : x = o.id
    · rw [if_pos hx, hx, hid]
      exact hnumbered.containerOf?_nextId hforest
    · rw [if_neg hx]
      rfl

end Apprentice.World
