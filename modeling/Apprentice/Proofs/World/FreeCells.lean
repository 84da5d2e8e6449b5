import Apprentice.Proofs.World.Run
import Mathlib.Data.Finset.Card
import Mathlib.Data.Set.Card

/-!
# Free cells

Two ways to ask for room. The scan goes through the grid row by row and stops at the first free
cell; the count multiplies the sides of the grid and takes away the objects that have a cell. In a
sound world the taken cells are different cells of the grid, so both speak of the same cells: the
count is their number.

There is no count in the greatest grids. The sides are 32-bit words, and their product can be beyond
the range of signed 64-bit words. The scan still finds a cell there, because no log is long enough
for as many objects as there are cells.
-/

namespace Apprentice

namespace Cell

variable {first second : Cell}

/-- Whether a cell comes before another one, row by row. -/
def Before (first second : Cell) : Prop :=
  first.y < second.y ∨ (first.y = second.y ∧ first.x < second.x)

theorem before_iff : first.Before second ↔ first.y.toInt < second.y.toInt ∨
    (first.y.toInt = second.y.toInt ∧ first.x.toInt < second.x.toInt) := by
  rw [Before, Int64.lt_iff_toInt_lt, Int64.lt_iff_toInt_lt, Int64.toInt_inj]

theorem Before.asymm (hbefore : first.Before second) : ¬ second.Before first := by
  rw [before_iff] at hbefore ⊢
  omega

end Cell

namespace World

variable {w next : World} {cell : Cell}

/-- The cells of the grid that no object lies in. -/
def freeCells (w : World) : Set Cell :=
  {cell | w.HasCell cell ∧ ∀ o ∈ w.objects, o.position ≠ some cell}

/-! ### The number of free cells -/

theorem mem_freeCells : cell ∈ w.freeCells ↔ w.HasCell cell ∧ cell ∉ w.takenCells := by
  simp only [freeCells, Set.mem_ofPred_eq, mem_takenCells, not_exists, not_and, ne_eq]

theorem freeCells_eq (hgrid : w.GridFits) :
    w.freeCells = ↑(w.cells.toFinset \ w.takenCells.toFinset) := by
  ext cell
  rw [mem_freeCells, ← mem_cells hgrid]
  simp

theorem finite_freeCells (hgrid : w.GridFits) : w.freeCells.Finite := by
  rw [freeCells_eq hgrid]
  exact Finset.finite_toSet _

/-- Every taken cell is one of the grid and none is taken twice, so the others are what is left. -/
theorem ncard_freeCells (hgrid : w.GridFits) (hapart : w.takenCells.Nodup)
    (hinside : ∀ cell ∈ w.takenCells, w.HasCell cell) :
    w.freeCells.ncard = w.width * w.height - w.takenCells.length := by
  have hsubset : w.takenCells.toFinset ⊆ w.cells.toFinset := by
    intro cell hcell
    rw [List.mem_toFinset] at hcell ⊢
    exact (mem_cells hgrid).mpr (hinside cell hcell)
  rw [freeCells_eq hgrid, Set.ncard_coe_finset, Finset.card_sdiff_of_subset hsubset,
    List.toFinset_card_of_nodup (nodup_cells hgrid), List.toFinset_card_of_nodup hapart,
    length_cells]

theorem Sound.ncard_freeCells (hsound : w.Sound) :
    w.freeCells.ncard = w.width * w.height - w.takenCells.length :=
  World.ncard_freeCells hsound.grid (hsound.placed.nodup_takenCells hsound.numbered.nodup)
    (hsound.placed.hasCell_of_mem_takenCells hsound.numbered.nodup)

/-! ### The first free cell -/

theorem pairwise_cells (hgrid : w.GridFits) : w.cells.Pairwise Cell.Before := by
  rw [cells, List.pairwise_map]
  refine List.pairwise_lt_range.imp_of_mem ?_
  intro i j hi hj hlt
  rw [List.mem_range] at hi hj
  rw [Cell.before_iff, toInt_y_cellAt hgrid hi, toInt_y_cellAt hgrid hj, toInt_x_cellAt hgrid,
    toInt_x_cellAt hgrid]
  have hrow : i / w.width ≤ j / w.width := Nat.div_le_div_right (Nat.le_of_lt hlt)
  rcases Nat.lt_or_eq_of_le hrow with hless | hsame
  · exact .inl (Int.ofNat_lt.mpr hless)
  · refine .inr ⟨congrArg Nat.cast hsame, Int.ofNat_lt.mpr ?_⟩
    have hi' := Nat.div_add_mod i w.width
    have hj' := Nat.div_add_mod j w.width
    rw [hsame] at hi'
    omega

theorem freeCell?_eq_some_iff (hgrid : w.GridFits) :
    w.freeCell? = some cell ↔
      cell ∈ w.freeCells ∧ ∀ other ∈ w.freeCells, other ≠ cell → cell.Before other := by
  have hfree : ∀ other, other ∈ w.freeCells ↔ other ∈ w.cells ∧ (!w.isTaken other) = true := by
    intro other
    rw [mem_freeCells, mem_cells hgrid, ← isTaken_iff, Bool.not_eq_true', Bool.not_eq_true]
  have hfirst : ∀ {found}, w.freeCell? = some found →
      found ∈ w.freeCells ∧ ∀ other ∈ w.freeCells, other ≠ found → found.Before other := by
    intro found hfound
    rw [freeCell?_eq, List.find?_eq_some_iff_append] at hfound
    obtain ⟨huntaken, front, back, hcells, hfront⟩ := hfound
    have hordered := pairwise_cells hgrid
    rw [hcells, List.pairwise_append, List.pairwise_cons] at hordered
    refine ⟨(hfree found).mpr ⟨by simp [hcells], huntaken⟩, fun other hother hne => ?_⟩
    obtain ⟨hmem, hopen⟩ := (hfree other).mp hother
    rw [hcells, List.mem_append, List.mem_cons] at hmem
    rcases hmem with hmem | rfl | hmem
    · have htaken := hfront other hmem
      rw [hopen] at htaken
      cases htaken
    · exact absurd rfl hne
    · exact hordered.2.1.1 other hmem
  refine ⟨hfirst, fun ⟨hcell, hleast⟩ => ?_⟩
  cases hfound : w.freeCell? with
  | none =>
    rw [freeCell?_eq, List.find?_eq_none] at hfound
    obtain ⟨hmem, hopen⟩ := (hfree cell).mp hcell
    exact absurd hopen (hfound cell hmem)
  | some found =>
    obtain ⟨hmem, hbefore⟩ := hfirst hfound
    by_cases heq : found = cell
    · rw [heq]
    · exact absurd (hleast found hmem heq) (hbefore cell hcell (Ne.symm heq)).asymm

/-- The scan ends without a cell if there is no free one. -/
theorem freeCell?_eq_none_iff (hgrid : w.GridFits) : w.freeCell? = none ↔ w.freeCells = ∅ := by
  rw [freeCell?_eq, List.find?_eq_none, Set.eq_empty_iff_forall_notMem]
  refine forall_congr' fun cell => ?_
  rw [mem_freeCells, mem_cells hgrid, ← isTaken_iff, not_and, Bool.not_eq_true', Bool.not_eq_false,
    not_not]

/-! ### The count -/

theorem length_events_of_run {ops : List Operation} (hlog : w.events.length ≤ logCapacity)
    (hrun : w.run ops = some next) : next.events.length ≤ logCapacity := by
  induction ops generalizing w with
  | nil =>
    cases hrun
    exact hlog
  | cons op ops ih =>
    rw [run] at hrun
    split at hrun
    next hroom => exact ih hroom hrun
    next => cases hrun

theorem Reachable.length_objects_le (hreachable : w.Reachable) :
    w.objects.length ≤ logCapacity := by
  have hlive := hreachable.sound.numbered.length_objects_lt
  obtain ⟨width, height, ops, hrun⟩ := hreachable
  have hlog := length_events_of_run (Nat.zero_le _) hrun
  have hnext := (advances_run hrun).nextId
  have hevents := (advances_run hrun).events
  have hfirst : (new width height).nextId = 1 := rfl
  rw [← hnext, hfirst] at hlive
  omega

theorem logCapacity_eq : logCapacity = 2 ^ 63 - 1 := by decide

theorem length_takenCells_le_length_objects (w : World) :
    w.takenCells.length ≤ w.objects.length := by
  rw [length_takenCells]
  exact List.length_filter_le _ _

/-- The free cells are counted exactly if the number of all cells is a 64-bit integer. Then the
count is the number of free cells, nothing is cut off on the way, and it is zero just if the scan
finds no cell. In every grid, what the scan finds is the first of the free cells, row by row. -/
theorem freeCellCount?_exact (hreachable : w.Reachable) :
    (w.freeCellCount? = none ↔ 2 ^ 63 ≤ w.width * w.height) ∧
    (∀ count, w.freeCellCount? = some count → count = w.freeCells.ncard ∧
      count + (w.objects.filter fun o => o.position.isSome).length = w.width * w.height) ∧
    (w.freeCell? = none ↔ w.freeCellCount? = some 0) ∧
    ∀ cell, w.freeCell? = some cell ↔
      cell ∈ w.freeCells ∧ ∀ other ∈ w.freeCells, other ≠ cell → cell.Before other := by
  have hsound := hreachable.sound
  have hgrid := hsound.grid
  have htaken := hsound.length_takenCells_le
  have hnumber := hsound.ncard_freeCells
  have hnone : w.freeCell? = none ↔ w.takenCells.length = w.width * w.height := by
    rw [freeCell?_eq_none_iff hgrid, ← Set.ncard_eq_zero (finite_freeCells hgrid), hnumber]
    omega
  refine ⟨freeCellCount?_eq_none_iff, fun count hcount => ?_, ?_,
    fun cell => freeCell?_eq_some_iff hgrid⟩
  · obtain ⟨-, rfl⟩ := freeCellCount?_eq_some_iff.mp hcount
    rw [← length_takenCells, hnumber]
    omega
  · -- in the greatest grids there are more cells than a log can tell of objects
    have hobjects := Nat.le_trans w.length_takenCells_le_length_objects
      hreachable.length_objects_le
    rw [logCapacity_eq] at hobjects
    rw [hnone, freeCellCount?_eq_some_iff]
    omega

/-- In the greatest grid the cells are not counted, though the scan goes on as it should. -/
theorem freeCellCount?_exact_greatest :
    ∃ w, (new 4294967295 4294967295).run [.create {}, .create {}, .putInto 1 2] = some w ∧
      w.Reachable ∧ w.ids = [1, 2] ∧ w.freeCellCount? = none ∧
      w.freeCell? = some ⟨0, 0⟩ ∧ ⟨0, 0⟩ ∈ w.freeCells := by
  have hends : (((new 4294967295 4294967295).run [.create {}, .create {}, .putInto 1 2]).map
      fun w => (w.width, w.height, w.ids, w.freeCell?)) =
      some (4294967295, 4294967295, [1, 2], some ⟨0, 0⟩) := by
    decide +kernel
  obtain ⟨w, hrun, hw⟩ := Option.map_eq_some_iff.mp hends
  obtain ⟨hwidth, hheight, hids, hfree⟩ := by simpa only [Prod.mk.injEq] using hw
  have hreachable : w.Reachable := ⟨_, _, _, hrun⟩
  obtain ⟨huncounted, -, -, hfirst⟩ := freeCellCount?_exact hreachable
  refine ⟨w, hrun, hreachable, hids, huncounted.mpr ?_, hfree, ((hfirst _).mp hfree).1⟩
  rw [hwidth, hheight]
  decide

end World

end Apprentice
