import Apprentice.Proofs.Text.CodeIndex
import Apprentice.Proofs.Text.LowerCase
import Apprentice.Proofs.Text.Tables
import Apprentice.Text.Blank

/-!
# Where blanks come from

Neither the canonical form nor the lower case makes a blank of characters that are none. The tables
are gone through once for this.
-/

namespace Apprentice.Text

def blankRanges : List (Nat × Nat) := [
  (9, 13), (0x20, 0x20), (0x85, 0x85), (0xA0, 0xA0), (0x1680, 0x1680), (0x2000, 0x200A),
  (0x2028, 0x2029), (0x202F, 0x202F), (0x205F, 0x205F), (0x3000, 0x3000)]

def isBlankCode (code : Nat) : Bool :=
  memRanges blankRanges code

theorem isBlank_eq (c : Char) : isBlank c = isBlankCode c.toNat := by
  rw [Bool.eq_iff_iff]
  simp only [isBlank, isBlankCode, memRanges, blankRanges, List.any_cons, List.any_nil,
    Bool.or_eq_true, Bool.and_eq_true, decide_eq_true_eq, beq_iff_eq, Bool.false_eq_true, or_false]
  omega

theorem isBlankCode_of_lt {code : Nat} (hcode : 0x3000 < code) : isBlankCode code = false := by
  rw [Bool.eq_false_iff, isBlankCode, memRanges, Ne, List.any_eq_true]
  rintro ⟨range, hrange, hin⟩
  have hall : ∀ range ∈ blankRanges, range.2 ≤ 0x3000 := by
    decide
  have hlast := hall range hrange
  simp only [Bool.and_eq_true, decide_eq_true_eq] at hin
  omega

theorem fits_blank :
    (TableFits fun code => (rangeBits blankRanges).testBit code = false) ∧
      RowsFit (fun code => (rangeBits blankRanges).testBit code = false)
        fun code => (rangeBits blankRanges).testBit code = false := by
  decide +kernel

/-! ### The canonical form -/

theorem tableClosed_blank : TableClosed fun code => isBlankCode code = false where
  fits := by
    have hfits := fits_blank.1
    simp only [testBit_rangeBits] at hfits
    exact hfits
  syllable := fun code hle _ => isBlankCode_of_lt (Nat.lt_of_lt_of_le (by decide) hle)

theorem isBlank_of_mem_canonical {cs : List Char} (hcs : ∀ c ∈ cs, isBlank c = false) :
    ∀ c ∈ canonical cs, isBlank c = false := by
  simp only [isBlank_eq] at hcs ⊢
  exact tableClosed_blank.canonical hcs

/-! ### Lower case -/

theorem lowersInto_blank :
    LowersInto (fun code => isBlankCode code = false) fun code => isBlankCode code = false where
  fits := by
    have hfits := fits_blank.2
    simp only [testBit_rangeBits] at hfits
    exact hfits
  other := fun _ _ hcode _ => hcode

theorem isBlank_of_mem_lowerChar {c d : Char} (hc : isBlank c = false) (hd : d ∈ lowerChar c) :
    isBlank d = false := by
  rw [isBlank_eq] at hc ⊢
  exact lowersInto_blank.lowerChar hc d hd

theorem isBlank_of_mem_lower {cs : List Char} (hcs : ∀ c ∈ cs, isBlank c = false) :
    ∀ c ∈ lower cs, isBlank c = false := by
  simp only [isBlank_eq] at hcs ⊢
  exact lowersInto_blank.lower hcs

end Apprentice.Text
