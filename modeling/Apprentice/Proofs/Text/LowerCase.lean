import Apprentice.Proofs.Text.Ascii
import Apprentice.Text.LowerCase

/-!
# Lower case of parts

A character is put into lower case by itself, but for the sigma, whose form depends on the cased
characters around it. It does not see beyond a character that is neither cased nor ignored, such as
the underscore, so what stands after one has no influence on what stands before it. Whether the
lower case of the characters of one class lies in another can be read from the table.
-/

namespace Apprentice.Text

variable {c : Char} {cs : List Char}

/-- Whether a character is its own lower case wherever it stands. -/
def isPlain (c : Char) : Bool :=
  lowerChar c == [c] && c.toNat != 0x3A3

theorem lowerAfter_of_plain (hplain : ∀ c ∈ cs, isPlain c = true) (before : List Char) :
    lowerAfter before cs = cs := by
  induction cs generalizing before with
  | nil => rfl
  | cons c cs ih =>
      obtain ⟨hc, hcs⟩ := List.forall_mem_cons.mp hplain
      obtain ⟨himage, hsigma⟩ := Bool.and_eq_true_iff.mp hc
      rw [lowerAfter, if_neg (by simpa using hsigma), ih hcs, eq_of_beq himage]
      rfl

theorem startsCased_append (hc : isCaseIgnorable c = false) (cs ds : List Char) :
    startsCased (cs ++ c :: ds) = startsCased (cs ++ [c]) := by
  rw [startsCased, startsCased, List.find?_append, List.find?_append]
  simp [hc]

/-- The lower case of what stands before a character that is not ignored is the same whatever comes
after that character. -/
theorem exists_lowerAfter_append (hc : isCaseIgnorable c = false) (before cs : List Char) :
    ∃ front, ∀ ds, lowerAfter before (cs ++ c :: ds) =
      front ++ lowerAfter (cs.reverse ++ before) (c :: ds) := by
  induction cs generalizing before with
  | nil => exact ⟨[], fun ds => rfl⟩
  | cons b cs ih =>
      obtain ⟨front, hfront⟩ := ih (b :: before)
      refine ⟨(if b.toNat == 0x3A3 then
          [if startsCased before && !startsCased (cs ++ [c]) then '\u03c2' else '\u03c3']
        else lowerChar b) ++ front, fun ds => ?_⟩
      rw [List.cons_append, lowerAfter, startsCased_append hc, hfront, List.reverse_cons,
        List.append_assoc, List.append_assoc]
      rfl

theorem lower_forall {P Q : Char → Prop} (hlower : ∀ c, P c → ∀ d ∈ lowerChar c, Q d)
    (hfinal : Q '\u03c2') (hsigma : Q '\u03c3') (hcs : ∀ c ∈ cs, P c) : ∀ c ∈ lower cs, Q c := by
  have hafter : ∀ before, ∀ c ∈ lowerAfter before cs, Q c := by
    induction cs with
    | nil => exact fun _ => List.forall_mem_nil Q
    | cons c cs ih =>
        obtain ⟨hc, hcs⟩ := List.forall_mem_cons.mp hcs
        intro before
        refine List.forall_mem_append.mpr ⟨?_, ih hcs (c :: before)⟩
        split
        · refine List.forall_mem_singleton.mpr ?_
          split
          · exact hfinal
          · exact hsigma
        · exact hlower c hc
  exact hafter []

theorem isPlain_of_isDigit (hdigit : c.isDigit = true) : isPlain c = true :=
  forall_ascii (P := fun c => c.isDigit = true → isPlain c = true) (by decide)
    (isAscii_of_isDigit hdigit) hdigit

/-! ### Classes of code points -/

/-- The code points that a row of the table maps. -/
def rowCodes (row : Nat × Nat × Nat × Nat) : List Nat :=
  List.range' row.1 ((row.2.1 - row.1) / row.2.2.1 + 1) row.2.2.1

set_option maxRecDepth 4000 in
theorem rows_ascend : ∀ row ∈ lowerRows, row.1 ≤ row.2.1 ∧ 0 < row.2.2.1 := by
  decide

theorem mem_rowCodes {row : Nat × Nat × Nat × Nat} {code : Nat} (hrow : row ∈ lowerRows) :
    code ∈ rowCodes row ↔ (lowerByRow code row).isSome = true := by
  obtain ⟨hascend, hpos⟩ := rows_ascend row hrow
  obtain ⟨first, last, step, base⟩ := row
  dsimp only at hascend hpos
  rw [rowCodes, List.mem_range', lowerByRow]
  dsimp only
  constructor
  · rintro ⟨k, hk, rfl⟩
    have hle : step * k ≤ last - first :=
      Nat.le_trans (Nat.mul_le_mul_left step (Nat.le_of_lt_succ hk)) (Nat.mul_div_le _ _)
    rw [if_pos]
    · rfl
    · simp only [Bool.and_eq_true, decide_eq_true_eq, beq_iff_eq, Nat.add_sub_cancel_left,
        Nat.mul_mod_right, and_true]
      omega
  · intro hsome
    split at hsome
    next hin =>
      simp only [Bool.and_eq_true, decide_eq_true_eq, beq_iff_eq] at hin
      obtain ⟨⟨hfirst, hlast⟩, hstep⟩ := hin
      have hle : code - first ≤ last - first := Nat.sub_le_sub_right hlast first
      refine ⟨(code - first) / step, Nat.lt_succ_of_le (Nat.div_le_div_right hle), ?_⟩
      rw [Nat.mul_div_cancel' (Nat.dvd_of_mod_eq_zero hstep)]
      omega
    next => cases hsome

/-- What is checked of two classes of code points, row by row: the lower case of what is in the
first one is in the second one, in ASCII, for `İ` and the sigma, and in the rows. -/
def RowsFit (P Q : Nat → Prop) : Prop :=
  Q 0 ∧ (∀ code < 0x80, P code → Q (Char.ofNat code).toLower.toNat) ∧
    (∀ code ∈ [0x69, 0x307, 0x3C2, 0x3C3], Q code) ∧
    ∀ row ∈ lowerRows, ∀ code ∈ rowCodes row, P code → ∀ image ∈ lowerByRow code row, Q image

instance {P Q : Nat → Prop} [DecidablePred P] [DecidablePred Q] : Decidable (RowsFit P Q) :=
  inferInstanceAs (Decidable (_ ∧ _))

/-- Whether the lower case of the characters of one class lies in another. -/
structure LowersInto (P Q : Nat → Prop) : Prop where
  fits : RowsFit P Q
  other : ∀ code ≠ 0x130, P code → code ∉ lowerRows.flatMap rowCodes → Q code

namespace LowersInto

variable {P Q : Nat → Prop}

theorem lowerChar (hlowers : LowersInto P Q) (hc : P c.toNat) : ∀ d ∈ lowerChar c, Q d.toNat := by
  intro d hd
  obtain ⟨hzero, hascii, hsmall, hrows⟩ := hlowers.fits
  rw [Text.lowerChar] at hd
  split at hd
  next hcode =>
    obtain rfl := List.mem_singleton.mp hd
    have hlower := hascii c.toNat hcode hc
    rwa [Char.ofNat_toNat] at hlower
  next =>
    split at hd
    next =>
      rcases List.mem_cons.mp hd with rfl | hd
      · exact hsmall 0x69 (by simp)
      · obtain rfl := List.mem_singleton.mp hd
        exact hsmall 0x307 (by simp)
    next hdot =>
      obtain rfl := List.mem_singleton.mp hd
      cases hfind : lowerRows.findSome? (lowerByRow c.toNat) with
      | none =>
          refine hlowers.other c.toNat (by simpa using hdot) hc fun hmem => ?_
          obtain ⟨row, hrow, hcode⟩ := List.mem_flatMap.mp hmem
          rw [mem_rowCodes hrow, List.findSome?_eq_none_iff.mp hfind row hrow] at hcode
          cases hcode
      | some image =>
          obtain ⟨row, hrow, himage⟩ := List.exists_of_findSome?_eq_some hfind
          have hcode : c.toNat ∈ rowCodes row := by
            rw [mem_rowCodes hrow, himage]
            rfl
          exact code_ofNat hzero (hrows row hrow c.toNat hcode hc image himage)

theorem lower (hlowers : LowersInto P Q) (hcs : ∀ c ∈ cs, P c.toNat) :
    ∀ c ∈ lower cs, Q c.toNat := by
  obtain ⟨-, -, hsmall, -⟩ := hlowers.fits
  exact lower_forall (P := fun c => P c.toNat) (Q := fun c => Q c.toNat)
    (fun _ => hlowers.lowerChar) (hsmall 0x3C2 (by simp)) (hsmall 0x3C3 (by simp)) hcs

end LowersInto

end Apprentice.Text
