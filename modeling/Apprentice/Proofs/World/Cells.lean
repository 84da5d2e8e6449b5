import Apprentice.Proofs.World.View
import Mathlib.Algebra.Group.Nat.Defs
import Mathlib.Data.List.Perm.Subperm
import Mathlib.Data.List.Range

/-!
# Cells

The grid as the list of its cells, row by row, and the cells that objects lie in. A free cell is the
first one on the first list that is not on the second, so a grid with fewer taken cells than cells
has a free one. The count of free cells is taken in 64-bit words; it is exact as long as the product
of the sides is such a word, and beyond that it is the greatest count there is.
-/

namespace Apprentice.World

variable {w next : World} {cell : Cell}

/-- The sides of a grid are 32-bit words, and none of them is zero. -/
structure GridFits (w : World) : Prop where
  width_pos : 0 < w.width
  width_lt : w.width < 2 ^ 32
  height_pos : 0 < w.height
  height_lt : w.height < 2 ^ 32

theorem GridFits.of_sides (hgrid : w.GridFits) (hwidth : next.width = w.width)
    (hheight : next.height = w.height) : next.GridFits := by
  obtain ⟨hwidthPos, hwidthLt, hheightPos, hheightLt⟩ := hgrid
  rw [← hwidth] at hwidthPos hwidthLt
  rw [← hheight] at hheightPos hheightLt
  exact ⟨hwidthPos, hwidthLt, hheightPos, hheightLt⟩

/-- A cell that lies in the grid. -/
def HasCell (w : World) (cell : Cell) : Prop :=
  0 ≤ cell.x.toInt ∧ cell.x.toInt < w.width ∧ 0 ≤ cell.y.toInt ∧ cell.y.toInt < w.height

def cells (w : World) : List Cell :=
  (List.range (w.width * w.height)).map w.cellAt

/-- The cells that objects lie in. -/
def takenCells (w : World) : List Cell :=
  w.objects.filterMap Object.position

/-! ### The cells of the grid -/

theorem toInt_x_cellAt (hgrid : w.GridFits) (index : Nat) :
    (w.cellAt index).x.toInt = (index % w.width : Nat) := by
  have hlt := Nat.mod_lt index hgrid.width_pos
  have hwidth := hgrid.width_lt
  exact Int64.toInt_ofNat_of_lt (by omega)

theorem toInt_y_cellAt (hgrid : w.GridFits) {index : Nat} (hindex : index < w.width * w.height) :
    (w.cellAt index).y.toInt = (index / w.width : Nat) := by
  have hlt : index / w.width < w.height := Nat.div_lt_of_lt_mul hindex
  have hheight := hgrid.height_lt
  exact Int64.toInt_ofNat_of_lt (by omega)

theorem hasCell_cellAt (hgrid : w.GridFits) {index : Nat} (hindex : index < w.width * w.height) :
    w.HasCell (w.cellAt index) := by
  have hx := Nat.mod_lt index hgrid.width_pos
  have hy : index / w.width < w.height := Nat.div_lt_of_lt_mul hindex
  rw [HasCell, toInt_x_cellAt hgrid, toInt_y_cellAt hgrid hindex]
  exact ⟨Int.natCast_nonneg _, Int.ofNat_lt.mpr hx, Int.natCast_nonneg _, Int.ofNat_lt.mpr hy⟩

theorem cellAt_injOn (hgrid : w.GridFits) {i j : Nat} (hi : i < w.width * w.height)
    (hj : j < w.width * w.height) (hsame : w.cellAt i = w.cellAt j) : i = j := by
  have hx := congrArg (fun cell => cell.x.toInt) hsame
  have hy := congrArg (fun cell => cell.y.toInt) hsame
  simp only [toInt_x_cellAt hgrid] at hx
  simp only [toInt_y_cellAt hgrid hi, toInt_y_cellAt hgrid hj] at hy
  have hmod : i % w.width = j % w.width := by exact_mod_cast hx
  have hdiv : i / w.width = j / w.width := by exact_mod_cast hy
  rw [← Nat.div_add_mod i w.width, ← Nat.div_add_mod j w.width, hmod, hdiv]

theorem nodup_cells (hgrid : w.GridFits) : w.cells.Nodup := by
  refine List.nodup_range.map_on ?_
  intro i hi j hj hsame
  exact cellAt_injOn hgrid (List.mem_range.mp hi) (List.mem_range.mp hj) hsame

theorem cellAt_of_hasCell (hgrid : w.GridFits) (hcell : w.HasCell cell) :
    ∃ index < w.width * w.height, w.cellAt index = cell := by
  obtain ⟨hx, hxlt, hy, hylt⟩ := hcell
  obtain ⟨x, hxeq⟩ := Int.eq_ofNat_of_zero_le hx
  obtain ⟨y, hyeq⟩ := Int.eq_ofNat_of_zero_le hy
  have hxw : x < w.width := by omega
  have hyh : y < w.height := by omega
  have hindex : w.width * y + x < w.width * w.height := by
    calc w.width * y + x < w.width * y + w.width := by omega
      _ = w.width * (y + 1) := by rw [Nat.mul_succ]
      _ ≤ w.width * w.height := Nat.mul_le_mul_left _ hyh
  have hmod : (w.width * y + x) % w.width = x := by
    rw [Nat.mul_add_mod, Nat.mod_eq_of_lt hxw]
  have hdiv : (w.width * y + x) / w.width = y := by
    rw [Nat.mul_add_div hgrid.width_pos, Nat.div_eq_of_lt hxw, Nat.add_zero]
  refine ⟨w.width * y + x, hindex, ?_⟩
  have hcx : (w.cellAt (w.width * y + x)).x = cell.x := by
    rw [← Int64.toInt_inj, toInt_x_cellAt hgrid, hmod, hxeq]
  have hcy : (w.cellAt (w.width * y + x)).y = cell.y := by
    rw [← Int64.toInt_inj, toInt_y_cellAt hgrid hindex, hdiv, hyeq]
  cases cell
  exact congrArg₂ Cell.mk hcx hcy

theorem mem_cells (hgrid : w.GridFits) : cell ∈ w.cells ↔ w.HasCell cell := by
  simp only [cells, List.mem_map, List.mem_range]
  constructor
  · rintro ⟨index, hindex, rfl⟩
    exact hasCell_cellAt hgrid hindex
  · exact cellAt_of_hasCell hgrid

@[simp] theorem length_cells (w : World) : w.cells.length = w.width * w.height := by
  simp [cells]

/-! ### Taken and free cells -/

theorem isTaken_iff : w.isTaken cell = true ↔ cell ∈ w.takenCells := by
  simp [isTaken, takenCells]

theorem mem_takenCells : cell ∈ w.takenCells ↔ ∃ o ∈ w.objects, o.position = some cell :=
  List.mem_filterMap

theorem length_takenCells (w : World) :
    w.takenCells.length = (w.objects.filter fun o => o.position.isSome).length := by
  rw [takenCells, List.length_filterMap_eq_countP, List.countP_eq_length_filter]

theorem freeCellFrom_eq (w : World) (index remaining : Nat) :
    w.freeCellFrom index remaining =
      ((List.range' index remaining).map w.cellAt).find? fun cell => !w.isTaken cell := by
  induction remaining generalizing index with
  | zero => rfl
  | succ remaining ih =>
    rw [List.range'_succ, List.map_cons, freeCellFrom]
    cases htaken : w.isTaken (w.cellAt index) with
    | true => simp [htaken, ih]
    | false => simp [htaken]

/-- The free cell is the first one, row by row, that no object takes. -/
theorem freeCell?_eq (w : World) :
    w.freeCell? = w.cells.find? fun cell => !w.isTaken cell := by
  rw [freeCell?, freeCellFrom_eq, cells, List.range_eq_range']

theorem freeCell?_advanceClock (w : World) : w.advanceClock.freeCell? = w.freeCell? := by
  rw [freeCell?_eq, freeCell?_eq]
  rfl

theorem hasCell_of_freeCell? (hgrid : w.GridFits) (hfree : w.freeCell? = some cell) :
    w.HasCell cell := by
  rw [freeCell?_eq] at hfree
  exact (mem_cells hgrid).mp (List.mem_of_find?_eq_some hfree)

theorem not_mem_takenCells_of_freeCell? (hfree : w.freeCell? = some cell) :
    cell ∉ w.takenCells := by
  rw [freeCell?_eq] at hfree
  have hnot := List.find?_some hfree
  rw [← isTaken_iff]
  simpa using hnot

theorem exists_freeCell? (hgrid : w.GridFits)
    (hroom : w.takenCells.length < w.width * w.height) : ∃ cell, w.freeCell? = some cell := by
  cases hfree : w.freeCell? with
  | some cell => exact ⟨cell, rfl⟩
  | none =>
    rw [freeCell?_eq, List.find?_eq_none] at hfree
    have hsubset : w.cells ⊆ w.takenCells := by
      intro cell hcell
      have htaken := hfree cell hcell
      exact isTaken_iff.mp (by simpa using htaken)
    have hle := ((nodup_cells hgrid).subperm hsubset).length_le
    rw [length_cells] at hle
    omega

theorem length_takenCells_le (hgrid : w.GridFits) (hapart : w.takenCells.Nodup)
    (hinside : ∀ cell ∈ w.takenCells, w.HasCell cell) :
    w.takenCells.length ≤ w.width * w.height := by
  have hsubset : w.takenCells ⊆ w.cells := fun cell hcell =>
    (mem_cells hgrid).mpr (hinside cell hcell)
  have hle := (hapart.subperm hsubset).length_le
  rwa [length_cells] at hle

/-! ### Counting -/

theorem freeCellCount?_eq (w : World) : w.freeCellCount? =
    if w.width * w.height < 2 ^ 63 then some (w.width * w.height - w.takenCells.length)
    else none := by
  have hword : w.width * w.height ≤ Int64.maxValue.toInt.toNat ↔ w.width * w.height < 2 ^ 63 :=
    Nat.lt_succ_iff.symm
  rw [freeCellCount?, cellCount?, length_takenCells, if_congr hword rfl rfl]
  split <;> rfl

theorem freeCellCount?_eq_some_iff {count : Nat} : w.freeCellCount? = some count ↔
    w.width * w.height < 2 ^ 63 ∧ w.width * w.height - w.takenCells.length = count := by
  rw [freeCellCount?_eq, Option.ite_none_right_eq_some, Option.some.injEq]

theorem freeCellCount?_eq_none_iff : w.freeCellCount? = none ↔ 2 ^ 63 ≤ w.width * w.height := by
  simp only [freeCellCount?_eq, ite_eq_right_iff, reduceCtorEq, imp_false, Nat.not_lt]

end Apprentice.World
