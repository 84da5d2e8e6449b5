import Apprentice.Proofs.World.Sound

/-!
# Removing a container

A removed object leaves its contents where it was itself. In a container that is one link for
another; in the open every child needs a cell. The count that is taken before the removal is enough
for all of them: the cell of the object itself becomes free, and every child takes one more.
-/

namespace Apprentice.World

open Relation

variable {w next : World} {id container x : ObjectId} {o : Object} {cell : Cell}

/-! ### Links -/

theorem Forest.mem_contentsOf_without (hforest : w.Forest) :
    x ∈ (w.without id).contentsOf id ↔ w.containerOf? x = some id := by
  have hmap : (w.without id).LinksAreMap := linksAreMap_unlink hforest.linksAreMap id
  rw [mem_contentsOf hmap, containerOf?_without]
  by_cases hx : x = id
  · rw [if_pos hx, hx]
    constructor
    · intro hnone
      cases hnone
    · intro hself
      exact absurd (.single hself) (hforest.acyclic id)
  · rw [if_neg hx]

theorem Forest.containerOf?_emptiedOut (hforest : w.Forest) (id x : ObjectId) :
    (w.emptiedOut id).containerOf? x =
      if w.containerOf? x = some id then w.containerOf? id
      else if x = id then none else w.containerOf? x := by
  rw [emptiedOut, containerOf?_spill, containerOf?_without]
  simp only [hforest.mem_contentsOf_without]

theorem ids_emptiedOut (w : World) (id : ObjectId) :
    (w.emptiedOut id).ids = (w.without id).ids :=
  (sameFrame_spill _ _ _).ids

theorem contains_emptiedOut :
    (w.emptiedOut id).contains x = true ↔ x ≠ id ∧ w.contains x = true := by
  rw [contains_iff_mem_ids, ids_emptiedOut, ← contains_iff_mem_ids, contains_iff, contains_iff]
  simp only [find?_without]
  by_cases hx : x = id <;> simp [hx]

theorem Forest.emptiedOut (hforest : w.Forest) (id : ObjectId) : (w.emptiedOut id).Forest where
  linksAreMap := linksAreMap_spill _ _ (linksAreMap_unlink hforest.linksAreMap id)
  live := by
    intro a b hin
    rw [DirectlyIn, hforest.containerOf?_emptiedOut] at hin
    rw [contains_emptiedOut, contains_emptiedOut]
    split at hin
    next hchild =>
      have hchildLive := (hforest.live hchild).1
      have hparentLive := (hforest.live hin).2
      refine ⟨⟨?_, hchildLive⟩, ⟨?_, hparentLive⟩⟩
      · rintro rfl
        exact hforest.acyclic a (.single hchild)
      · rintro rfl
        exact hforest.acyclic b (.single hin)
    next hchild =>
      split at hin
      next => cases hin
      next hne =>
        have hlive := hforest.live hin
        refine ⟨⟨hne, hlive.1⟩, ⟨?_, hlive.2⟩⟩
        rintro rfl
        exact hchild hin
  acyclic := by
    refine hforest.acyclic_of_le fun a b hin => ?_
    rw [DirectlyIn, hforest.containerOf?_emptiedOut] at hin
    split at hin
    next hchild => exact .head hchild (.single hin)
    next =>
      split at hin
      next => cases hin
      next => exact .single hin

/-! ### Cells -/

theorem Placed.without (hplaced : w.Placed) (id : ObjectId) : (w.without id).Placed := by
  refine hplaced.of_agree rfl rfl ?_
  intro x o hfind
  rw [find?_without] at hfind
  split at hfind
  next => cases hfind
  next hx => exact ⟨o, hfind, rfl, by rw [containerOf?_without, if_neg hx]⟩

/-- While there is room for one more object than those that wait, the first of them gets a cell, and
there is room for the rest after it. -/
theorem exists_cell_of_room (child : ObjectId) {waiting : Nat} (hgrid : w.GridFits)
    (hids : w.ids.Nodup) (hroom : w.takenCells.length + (waiting + 1) ≤ w.width * w.height) :
    ∃ cell, (w.unlink child).freeCell? = some cell ∧
      ((w.unlink child).modify child (moveTo (some cell))).takenCells.length + waiting ≤
        w.width * w.height := by
  have hfewer : w.takenCells.length < w.width * w.height := by omega
  obtain ⟨cell, hfree⟩ := exists_freeCell? (w := w.unlink child) (hgrid.of_sides rfl rfl) hfewer
  have hmore := length_takenCells_modify_le (w := w.unlink child) hids child (moveTo (some cell))
  change _ ≤ w.takenCells.length + 1 at hmore
  exact ⟨cell, hfree, by omega⟩

/-- Spilling into the open goes well as long as there are cells for all children. -/
theorem Placed.spill_none (children : List ObjectId) (hplaced : w.Placed) (hgrid : w.GridFits)
    (hids : w.ids.Nodup)
    (hroom : w.takenCells.length + children.length ≤ w.width * w.height) :
    (w.spill none children).Placed := by
  induction children generalizing w with
  | nil => exact hplaced
  | cons child children ih =>
    obtain ⟨cell, hfree, hrest⟩ := exists_cell_of_room child hgrid hids hroom
    have hcell : (w.unlink child).HasCell cell :=
      hasCell_of_freeCell? (hgrid.of_sides rfl rfl) hfree
    have huntaken : cell ∉ (w.unlink child).takenCells := not_mem_takenCells_of_freeCell? hfree
    rw [World.spill, hfree]
    exact ih (hplaced.takeOut hcell huntaken child) (hgrid.of_sides rfl rfl)
      ((sameFrame_move w child (some cell)).ids ▸ hids) hrest

/-- An object in the open gives its cell back when it is removed. -/
theorem Placed.length_takenCells_without (hplaced : w.Placed) (hids : w.ids.Nodup)
    (hfind : w.find? id = some o) (hcell : o.position = some cell) :
    (w.without id).takenCells.length < w.takenCells.length := by
  have hsublist : (w.without id).takenCells.Sublist w.takenCells :=
    List.filter_sublist.filterMap Object.position
  have hids' : (w.without id).ids.Nodup := hids.sublist (ids_without w id)
  have hgone : cell ∉ (w.without id).takenCells := by
    intro hmem
    obtain ⟨p, hp, hpcell⟩ := mem_takenCells.mp hmem
    have hfind' := find?_of_mem hids' hp
    rw [find?_without] at hfind'
    split at hfind'
    next => cases hfind'
    next hne => exact hne (hplaced.apart hfind' hfind hpcell hcell)
  refine Nat.lt_of_le_of_ne hsublist.length_le fun hlength => ?_
  rw [hsublist.eq_of_length hlength] at hgone
  exact hgone (mem_takenCells_of_find? hfind hcell)

theorem length_contentsOf_without_le (w : World) (id : ObjectId) :
    ((w.without id).contentsOf id).length ≤ (w.contentsOf id).length := by
  simp only [contentsOf, List.length_mergeSort]
  exact (List.filter_sublist.filterMap _).length_le

theorem Sound.exists_position (hsound : w.Sound) (hfind : w.find? id = some o)
    (hopen : w.containerOf? id = none) : ∃ cell, o.position = some cell := by
  rw [← Option.ne_none_iff_exists']
  intro hnone
  rw [hsound.placed.open_iff hfind, hopen] at hnone
  cases hnone

theorem Sound.length_takenCells_le (hsound : w.Sound) :
    w.takenCells.length ≤ w.width * w.height :=
  World.length_takenCells_le hsound.grid
    (hsound.placed.nodup_takenCells hsound.numbered.nodup)
    (hsound.placed.hasCell_of_mem_takenCells hsound.numbered.nodup)

/-- The count of the free cells is a good one: a removal that passes the check finds room. -/
theorem Sound.room_of_checkRoom (hsound : w.Sound) (hfind : w.find? id = some o)
    (hopen : w.containerOf? id = none) (hcheck : w.checkRoom id o.position.isSome = .ok ()) :
    (w.without id).takenCells.length + ((w.without id).contentsOf id).length ≤
      w.width * w.height := by
  have hchildren := length_contentsOf_without_le w id
  obtain ⟨cell, hcell⟩ := hsound.exists_position hfind hopen
  have hfreed := hsound.placed.length_takenCells_without hsound.numbered.nodup hfind hcell
  have htaken := hsound.length_takenCells_le
  obtain ⟨count, hcount, hroom⟩ := checkRoom_eq_ok hcheck
  obtain ⟨-, rfl⟩ := freeCellCount?_eq_some_iff.mp hcount
  rw [hcell, Option.isSome_some, if_pos rfl] at hroom
  omega

theorem Sound.emptiedOut (hsound : w.Sound) (hfind : w.find? id = some o)
    (hcheck : w.containerOf? id = none → w.checkRoom id o.position.isSome = .ok ()) :
    (w.emptiedOut id).Sound := by
  have hframe := sameFrame_spill (w.containerOf? id) ((w.without id).contentsOf id) (w.without id)
  have hnumbered := hsound.numbered.without id
  refine ⟨hsound.grid.of_sides hframe.width hframe.height,
    hnumbered.of_ids_eq hframe.ids hframe.nextId,
    hsound.forest.emptiedOut id, ?_⟩
  have hplaced := hsound.placed.without id
  cases hparent : w.containerOf? id with
  | none =>
    rw [World.emptiedOut, hparent]
    exact hplaced.spill_none _ (hsound.grid.of_sides rfl rfl) hnumbered.nodup
      (hsound.room_of_checkRoom hfind hparent (hcheck hparent))
  | some parent =>
    refine hplaced.of_agree hframe.width hframe.height fun {x p} hp => ?_
    rw [World.emptiedOut, hparent, find?_spill_some] at hp
    refine ⟨p, hp, rfl, ?_⟩
    rw [hsound.forest.containerOf?_emptiedOut, containerOf?_without, hparent]
    rw [find?_without] at hp
    split at hp
    next => cases hp
    next hx =>
      split
      next hchild =>
        rw [hchild]
        rfl
      next => rfl

end Apprentice.World
