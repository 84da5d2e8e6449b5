import Apprentice.Proofs.World.FreeCells
import Apprentice.Proofs.World.Replay

/-!
# What a removal leaves behind

When an object is removed, the forest of containers is contracted at its place: what lay directly
inside it comes to where it was itself. Inside a container that is a matter of links. In the open
the contents are given cells, one after the other, and each cell that is given away is missing for
the next of them; so the invariant of the loop is about the cells that are still free.

A removal is refused for want of room exactly if there are more contents than free cells, the cell
of the object itself included. The check counts the free cells before the removal, so a removal in
the open is aborted where they cannot be counted, though there is room then for all objects that a
log can tell of.
-/

namespace Apprentice.World

variable {w next : World} {id container x : ObjectId} {o p : Object} {cell : Cell}

/-- What comes of a world when an object is removed. -/
structure Contracts (w next : World) (id : ObjectId) : Prop where
  ids : next.ids = w.ids.filter fun other => other != id
  /-- What was in the object is now where the object was, and all other links stay. -/
  links : ∀ x, next.containerOf? x =
    if w.containerOf? x = some id then w.containerOf? id
    else if x = id then none else w.containerOf? x
  /-- Only what comes into the open is changed. -/
  kept : ∀ x, x ≠ id → (w.containerOf? x = some id → w.containerOf? id ≠ none) →
    next.find? x = w.find? x
  /-- What comes into the open takes a cell, which nothing else had and nothing else has. -/
  spilled : w.containerOf? id = none → ∀ x p, w.containerOf? x = some id → w.find? x = some p →
    ∃ cell ∈ (w.without id).freeCells, next.find? x = some { p with position := some cell } ∧
      ∀ y q, next.find? y = some q → q.position = some cell → y = x

/-! ### Spilling -/

/-- To give a cell to an object that had none makes no other cell free. -/
theorem freeCells_modify_subset {f : Object → Object} (hids : w.ids.Nodup)
    (hnone : ∀ o, w.find? id = some o → o.position = none) :
    (w.modify id f).freeCells ⊆ w.freeCells := by
  intro cell hcell
  refine ⟨hcell.1, fun o ho htaken => ?_⟩
  have hne : o.id ≠ id := by
    rintro rfl
    rw [hnone o (find?_of_mem hids ho)] at htaken
    cases htaken
  refine hcell.2 o (List.mem_map.mpr ⟨o, ho, ?_⟩) htaken
  simp [hne]

/-- Each of the contents is given a cell that was free, and the other objects stay as they are. -/
theorem find?_spill_none {children : List ObjectId} (hgrid : w.GridFits) (hids : w.ids.Nodup)
    (hroom : w.takenCells.length + children.length ≤ w.width * w.height)
    (hnodup : children.Nodup)
    (hcontained : ∀ child ∈ children, ∀ o, w.find? child = some o → o.position = none) :
    (∀ x, x ∉ children → (w.spill none children).find? x = w.find? x) ∧
    ∀ x ∈ children, ∀ p, w.find? x = some p → ∃ cell ∈ w.freeCells,
      (w.spill none children).find? x = some { p with position := some cell } := by
  induction children generalizing w with
  | nil => exact ⟨fun x _ => rfl, fun x hx => absurd hx List.not_mem_nil⟩
  | cons child children ih =>
    obtain ⟨hnew, hrest⟩ := List.nodup_cons.mp hnodup
    obtain ⟨cell, hfree, hroom'⟩ := exists_cell_of_room child hgrid hids hroom
    have hcell : cell ∈ w.freeCells :=
      ((freeCell?_eq_some_iff (w := w.unlink child) (hgrid.of_sides rfl rfl)).mp hfree).1
    have hframe := sameFrame_move w child (some cell)
    have hfind : ∀ x, ((w.unlink child).modify child (moveTo (some cell))).find? x =
        if x = child then (w.find? x).map (moveTo (some cell)) else w.find? x :=
      find?_modify_moveTo (w.unlink child) child (some cell)
    have hchild := hcontained child List.mem_cons_self
    rw [World.spill, hfree]
    generalize hmoved : (w.unlink child).modify child (moveTo (some cell)) = moved at *
    obtain ⟨hothers, hgiven⟩ := ih (w := moved) (hgrid.of_sides hframe.width hframe.height)
      (hframe.ids ▸ hids) (by rwa [hframe.width, hframe.height]) hrest
      (fun other hother o hold => by
        have hne : other ≠ child := fun heq => hnew (heq ▸ hother)
        rw [hfind, if_neg hne] at hold
        exact hcontained other (List.mem_cons_of_mem _ hother) o hold)
    refine ⟨fun x hx => ?_, fun x hx p hp => ?_⟩
    · rw [List.mem_cons, not_or] at hx
      rw [hothers x hx.2, hfind, if_neg hx.1]
    · by_cases heq : x = child
      · subst heq
        refine ⟨cell, hcell, ?_⟩
        rw [hothers x hnew, hfind, if_pos rfl, hp]
        rfl
      · have hmem : x ∈ children := (List.mem_cons.mp hx).resolve_left heq
        obtain ⟨other, hother, hplaced⟩ := hgiven x hmem p (by rw [hfind, if_neg heq, hp])
        refine ⟨other, ?_, hplaced⟩
        rw [← hmoved] at hother
        exact freeCells_modify_subset (w := w.unlink child) hids hchild hother

/-! ### Room -/

theorem Sound.without (hsound : w.Sound) (id : ObjectId) :
    (w.without id).GridFits ∧ (w.without id).Numbered ∧ (w.without id).Placed :=
  ⟨hsound.grid.of_sides rfl rfl, hsound.numbered.without id, hsound.placed.without id⟩

theorem Sound.ncard_freeCells_without (hsound : w.Sound) (id : ObjectId) :
    (w.without id).freeCells.ncard = w.width * w.height - (w.without id).takenCells.length := by
  obtain ⟨hgrid, hnumbered, hplaced⟩ := hsound.without id
  exact World.ncard_freeCells hgrid (hplaced.nodup_takenCells hnumbered.nodup)
    (hplaced.hasCell_of_mem_takenCells hnumbered.nodup)

theorem Sound.length_takenCells_le_without (hsound : w.Sound) (hfind : w.find? id = some o)
    (hcell : o.position = some cell) :
    w.takenCells.length ≤ (w.without id).takenCells.length + 1 := by
  have hids := hsound.numbered.nodup
  have hsubset : w.takenCells ⊆ cell :: (w.without id).takenCells := by
    intro other hother
    obtain ⟨p, hp, hpother⟩ := mem_takenCells.mp hother
    by_cases hid : p.id = id
    · have hsame := find?_of_mem hids hp
      rw [hid, hfind] at hsame
      cases hsame
      rw [hcell] at hpother
      cases hpother
      exact List.mem_cons_self
    · refine List.mem_cons_of_mem _ (mem_takenCells.mpr ⟨p, ?_, hpother⟩)
      exact List.mem_filter.mpr ⟨hp, by simpa using hid⟩
  exact ((hsound.placed.nodup_takenCells hids).subperm hsubset).length_le

/-- The check of a removal compares the contents with the cells that are free without the object, if
these can be counted. -/
theorem Sound.checkRoom_eq (hsound : w.Sound) (hfind : w.find? id = some o)
    (hopen : w.containerOf? id = none) :
    w.checkRoom id o.position.isSome =
      if 2 ^ 63 ≤ w.width * w.height then .error .aborted
      else if (w.without id).freeCells.ncard < (w.contentsOf id).length then
        .error (.refused w.fullError)
      else .ok () := by
  obtain ⟨cell, hcell⟩ := hsound.exists_position hfind hopen
  have hfreed := hsound.placed.length_takenCells_without hsound.numbered.nodup hfind hcell
  have hone := hsound.length_takenCells_le_without hfind hcell
  have htaken := hsound.length_takenCells_le
  rw [checkRoom, freeCellCount?_eq, hsound.ncard_freeCells_without, hcell, Option.isSome_some,
    if_pos rfl]
  by_cases hgreat : 2 ^ 63 ≤ w.width * w.height
  · rw [if_pos hgreat, if_neg (Nat.not_lt.mpr hgreat)]
  · rw [if_neg hgreat, if_pos (Nat.not_le.mp hgreat)]
    have hcells : w.width * w.height - w.takenCells.length + 1 =
        w.width * w.height - (w.without id).takenCells.length := by
      omega
    dsimp only
    rw [hcells]

/-- Children are contained, so they have no cells, and together there are no more children and taken
cells than objects. -/
theorem length_takenCells_add_children_le {children : List ObjectId}
    (hnodup : children.Nodup)
    (hcontained : ∀ child ∈ children, ∃ o, w.find? child = some o ∧ o.position = none) :
    w.takenCells.length + children.length ≤ w.objects.length := by
  have hsubset : children ⊆ (w.objects.filter fun o => !o.position.isSome).map Object.id := by
    intro child hchild
    obtain ⟨o, hfind, hnone⟩ := hcontained child hchild
    exact List.mem_map.mpr
      ⟨o, List.mem_filter.mpr ⟨mem_of_find? hfind, by simp [hnone]⟩, id_of_find? hfind⟩
  have hle := (hnodup.subperm hsubset).length_le
  rw [List.length_map] at hle
  have hsplit := List.length_eq_length_filter_add (l := w.objects) fun o => o.position.isSome
  rw [length_takenCells]
  omega

theorem Sound.length_takenCells_add_contentsOf_le (hsound : w.Sound) (id : ObjectId) :
    w.takenCells.length + (w.contentsOf id).length ≤ w.objects.length := by
  have hmap := hsound.forest.linksAreMap
  refine length_takenCells_add_children_le (nodup_contentsOf hmap id) fun child hchild => ?_
  have hin := (mem_contentsOf hmap).mp hchild
  obtain ⟨p, hp⟩ := contains_iff.mp (hsound.forest.live hin).1
  refine ⟨p, hp, (hsound.placed.open_iff hp).mpr ?_⟩
  rw [hin]
  rfl

/-- In the greatest grids there is room for whatever an object holds. -/
theorem Reachable.length_contentsOf_le (hreachable : w.Reachable)
    (hgreat : 2 ^ 63 ≤ w.width * w.height) (hfind : w.find? id = some o)
    (hopen : w.containerOf? id = none) :
    (w.contentsOf id).length ≤ (w.without id).freeCells.ncard := by
  have hsound := hreachable.sound
  obtain ⟨cell, hcell⟩ := hsound.exists_position hfind hopen
  have hfreed := hsound.placed.length_takenCells_without hsound.numbered.nodup hfind hcell
  have hboth := hsound.length_takenCells_add_contentsOf_le id
  have hobjects := hreachable.length_objects_le
  rw [logCapacity_eq] at hobjects
  rw [hsound.ncard_freeCells_without]
  omega

/-! ### Removing -/

theorem Contracts.log (hcontracts : w.Contracts next id) (object : ObjectId) (name : String)
    (kind : EventKind) : w.Contracts (next.log object name kind) id :=
  ⟨hcontracts.ids, hcontracts.links, hcontracts.kept, hcontracts.spilled⟩

theorem Sound.contracts_emptiedOut (hsound : w.Sound) (hfind : w.find? id = some o)
    (hcheck : w.containerOf? id = none → w.checkRoom id o.position.isSome = .ok ()) :
    w.Contracts (w.emptiedOut id) id := by
  have hforest := hsound.forest
  have hinside : ∀ x ∈ (w.without id).contentsOf id, x ≠ id := by
    rintro x hx rfl
    exact hforest.acyclic x (.single (hforest.mem_contentsOf_without.mp hx))
  have hspill : w.containerOf? id = none → _ := fun hopen =>
    find?_spill_none (w := w.without id) (hsound.without id).1 (hsound.without id).2.1.nodup
      (hsound.room_of_checkRoom hfind hopen (hcheck hopen))
      (nodup_contentsOf (linksAreMap_unlink hforest.linksAreMap id) id)
      (fun child hchild p hp => by
        rw [find?_without, if_neg (hinside child hchild)] at hp
        rw [hsound.placed.open_iff hp, hforest.mem_contentsOf_without.mp hchild]
        rfl)
  refine ⟨(ids_emptiedOut w id).trans (ids_without_eq w id), hforest.containerOf?_emptiedOut id,
    fun x hx hkept => ?_, fun hopen x p hx hp => ?_⟩
  · have hsame : (w.without id).find? x = w.find? x := by rw [find?_without, if_neg hx]
    rw [← hsame, World.emptiedOut]
    cases hparent : w.containerOf? id with
    | some parent => exact find?_spill_some parent _ _ x
    | none =>
      refine (hspill hparent).1 x fun hmem => ?_
      exact hkept (hforest.mem_contentsOf_without.mp hmem) hparent
  · have hmem := hforest.mem_contentsOf_without.mpr hx
    have hsame : (w.without id).find? x = some p := by
      rw [find?_without, if_neg (hinside x hmem), hp]
    obtain ⟨cell, hcell, hplaced⟩ := (hspill hopen).2 x hmem p hsame
    rw [← hopen] at hplaced
    refine ⟨cell, hcell, hplaced, fun y q hq hqcell => ?_⟩
    exact (hsound.emptiedOut hfind hcheck).placed.apart hq hplaced hqcell rfl

/-- The ways in which the removal of a live object can end. -/
theorem Reachable.remove_cases (hreachable : w.Reachable) (hfind : w.find? id = some o) :
    (w.remove id = .error .aborted ∧ w.containerOf? id = none ∧ 2 ^ 63 ≤ w.width * w.height ∧
      (w.contentsOf id).length ≤ (w.without id).freeCells.ncard) ∨
    (w.remove id = .error (.refused w.fullError) ∧ w.containerOf? id = none ∧
      w.width * w.height < 2 ^ 63 ∧
      (w.without id).freeCells.ncard < (w.contentsOf id).length) ∨
    ∃ next, w.remove id = .ok (o, next) ∧ w.Contracts next id ∧
      (w.containerOf? id = none → w.width * w.height < 2 ^ 63 ∧
        (w.contentsOf id).length ≤ (w.without id).freeCells.ncard) := by
  have hsound := hreachable.sound
  rw [remove_of_find? hfind]
  by_cases hopen : w.containerOf? id = none
  · have hcheck := hsound.checkRoom_eq hfind hopen
    rw [if_pos hopen]
    by_cases hgreat : 2 ^ 63 ≤ w.width * w.height
    · rw [hcheck, if_pos hgreat]
      exact .inl ⟨rfl, hopen, hgreat, hreachable.length_contentsOf_le hgreat hfind hopen⟩
    · by_cases hfull : (w.without id).freeCells.ncard < (w.contentsOf id).length
      · rw [hcheck, if_neg hgreat, if_pos hfull]
        exact .inr (.inl ⟨rfl, hopen, Nat.not_le.mp hgreat, hfull⟩)
      · rw [if_neg hgreat, if_neg hfull] at hcheck
        rw [hcheck]
        exact .inr (.inr ⟨_, rfl, (hsound.contracts_emptiedOut hfind fun _ => hcheck).log _ _ _,
          fun _ => ⟨Nat.not_le.mp hgreat, Nat.not_lt.mp hfull⟩⟩)
  · rw [if_neg hopen]
    exact .inr (.inr ⟨_, rfl,
      (hsound.contracts_emptiedOut hfind fun hnone => absurd hnone hopen).log _ _ _,
      fun hnone => absurd hnone hopen⟩)

/-- A removal is refused if there is no such object, or if the object lies in the open and holds
more than there are free cells without it; in the open it is aborted if the number of cells is no
64-bit integer. Otherwise the object is gone, what lay directly inside it lies where it lay itself,
and everything else is as and where it was. -/
theorem remove_contracts (hreachable : w.Reachable) (id : ObjectId) :
    (w.remove id = .error (.refused (.notFound id)) ↔ w.find? id = none) ∧
    (w.remove id = .error (.refused w.fullError) ↔
      w.containerOf? id = none ∧ (w.without id).freeCells.ncard < (w.contentsOf id).length) ∧
    (w.remove id = .error .aborted ↔
      w.contains id = true ∧ w.containerOf? id = none ∧ 2 ^ 63 ≤ w.width * w.height) ∧
    ∀ o, w.find? id = some o →
      ¬ (w.containerOf? id = none ∧
        (w.without id).freeCells.ncard < (w.contentsOf id).length) →
      ¬ (w.containerOf? id = none ∧ 2 ^ 63 ≤ w.width * w.height) →
      ∃ next, w.remove id = .ok (o, next) ∧ w.Contracts next id := by
  have hmap := hreachable.sound.forest.linksAreMap
  cases hfind : w.find? id with
  | none =>
    have hremove : w.remove id = .error (.refused (.notFound id)) := by rw [remove, hfind]
    have hempty : w.contentsOf id = [] := by
      rw [List.eq_nil_iff_forall_not_mem]
      intro x hx
      have hlive := (hreachable.sound.forest.live ((mem_contentsOf hmap).mp hx)).2
      rw [contains, hfind] at hlive
      cases hlive
    rw [hremove, hempty, contains, hfind]
    refine ⟨by simp, by simp [fullError], by simp, fun o hnone => by cases hnone⟩
  | some o =>
    have hlive := contains_of_find? hfind
    rcases hreachable.remove_cases hfind with
      ⟨hremove, hopen, hgreat, hroom⟩ | ⟨hremove, hopen, hsmall, hfull⟩ |
      ⟨next, hremove, hcontracts, hroom⟩
    · rw [hremove]
      exact ⟨by simp, by simpa [hopen] using hroom, by simp only [hlive, hopen, hgreat, and_self],
        fun _ _ _ hnot => absurd ⟨hopen, hgreat⟩ hnot⟩
    · rw [hremove]
      exact ⟨by simp [fullError], by simp [hopen, hfull], by simpa [hlive, hopen] using hsmall,
        fun _ _ hnot => absurd ⟨hopen, hfull⟩ hnot⟩
    · rw [hremove]
      refine ⟨by simp, by simpa using fun hopen => (hroom hopen).2,
        by simpa [hlive] using fun hopen => (hroom hopen).1, ?_⟩
      rintro _ ⟨⟩ - -
      exact ⟨next, rfl, hcontracts⟩

/-- A box with two things in it cannot be removed as long as something else takes the only other
cell. One of the things can, and what it holds comes into the box. In the greatest grid nothing that
lies in the open can be removed. -/
theorem remove_contracts_of_crowded :
    (∃ w next, (new 2 1).run
        [.create {}, .create {}, .putInto 2 1, .create {}, .putInto 3 2, .create {}, .putInto 4 1,
          .create {}] = some w ∧
      w.remove 1 = .error (.refused w.fullError) ∧
      (w.without 1).freeCells.ncard < (w.contentsOf 1).length ∧
      (w.remove 2).map Prod.snd = .ok next ∧ w.Contracts next 2 ∧
      w.containerOf? 3 = some 2 ∧ next.containerOf? 3 = some 1) ∧
    ∃ w, (new 4294967295 4294967295).run [.create {}] = some w ∧ w.remove 1 = .error .aborted := by
  constructor
  · have hends : (((new 2 1).run
        [.create {}, .create {}, .putInto 2 1, .create {}, .putInto 3 2, .create {}, .putInto 4 1,
          .create {}]).map fun w => (w.containers, w.freeCellCount?, w.ids)) =
        some ([(4, 1), (3, 2), (2, 1)], some 0, [1, 2, 3, 4, 5]) := by
      decide +kernel
    obtain ⟨w, hrun, hw⟩ := Option.map_eq_some_iff.mp hends
    obtain ⟨hlinks, hcount, hids⟩ := by simpa only [Prod.mk.injEq] using hw
    have hlive : ∀ id ∈ [1, 2, 3, 4, 5], ∃ o, w.find? id = some o := fun id hid =>
      contains_iff.mp (contains_iff_mem_ids.mpr (hids ▸ hid))
    obtain ⟨box, hbox⟩ := hlive 1 (by decide)
    obtain ⟨thing, hthing⟩ := hlive 2 (by decide)
    have hcontainer : ∀ id, w.containerOf? id =
        (([(4, 1), (3, 2), (2, 1)] : List (ObjectId × ObjectId)).find? fun link => link.1 == id).map
          (·.2) := fun id => by rw [containerOf?, hlinks]
    have hinside : w.containerOf? 2 ≠ none := fun hopen => by cases (hcontainer 2).symm.trans hopen
    have hrefused : w.remove 1 = .error (.refused w.fullError) := by
      have htwo : (w.contentsOf 1).length = 2 := by
        rw [contentsOf, List.length_mergeSort, hlinks]
        rfl
      have hfull : 0 + (if box.position.isSome then 1 else 0) < (w.contentsOf 1).length := by
        rw [htwo]
        split <;> decide
      have hopen : w.containerOf? 1 = none := hcontainer 1
      rw [remove_of_find? hbox, if_pos hopen, checkRoom, hcount]
      dsimp only
      rw [if_pos hfull]
      rfl
    obtain ⟨-, hroom, -, -⟩ := remove_contracts ⟨_, _, _, hrun⟩ 1
    obtain ⟨-, -, -, hcarried⟩ := remove_contracts ⟨_, _, _, hrun⟩ 2
    obtain ⟨next, hremove, hcontracts⟩ := hcarried thing hthing (fun hopen => hinside hopen.1)
      fun hopen => hinside hopen.1
    have hheld : w.containerOf? 3 = some 2 := hcontainer 3
    refine ⟨w, next, hrun, hrefused, (hroom.mp hrefused).2, by rw [hremove]; rfl, hcontracts, hheld,
      ?_⟩
    rw [hcontracts.links, if_pos hheld]
    exact hcontainer 2
  · have hends : (((new 4294967295 4294967295).run [.create {}]).map fun w =>
        (w.width, w.height, w.contains 1, w.containerOf? 1)) =
        some (4294967295, 4294967295, true, none) := by
      decide +kernel
    obtain ⟨w, hrun, hw⟩ := Option.map_eq_some_iff.mp hends
    obtain ⟨hwidth, hheight, hlive, hopen⟩ := by simpa only [Prod.mk.injEq] using hw
    obtain ⟨-, -, haborted, -⟩ := remove_contracts ⟨_, _, _, hrun⟩ 1
    refine ⟨w, hrun, haborted.mpr ⟨hlive, hopen, ?_⟩⟩
    rw [hwidth, hheight]
    decide

end Apprentice.World
