import Apprentice.Lexicon.Word
import Apprentice.Proofs.Text.Blank
import Apprentice.Proofs.Text.Parts

/-!
# The characters of words

A word can be taught if its normal form is made of letters, numbers and a few other characters. The
word itself need not be: an accent of its own is no such character, but the letter that it is
composed with is one. What can be said of the word is that there are no blanks in it, and that it is
not made of other characters alone.
-/

namespace Apprentice

open Text

variable {c : Char} {cs : List Char}

def wordRanges : List (Nat × Nat) :=
  (0x27, 0x27) :: (0x2D, 0x2D) :: (0x5F, 0x5F) :: alphanumericRanges

theorem isWordChar_eq (c : Char) : isWordChar c = (rangeBits wordRanges).testBit c.toNat := by
  have hchar : ∀ d : Char, (c == d) = decide (d.toNat ≤ c.toNat ∧ c.toNat ≤ d.toNat) := by
    intro d
    rw [Bool.eq_iff_iff, beq_iff_eq, decide_eq_true_iff, ← Char.toNat_inj]
    omega
  rw [testBit_rangeBits, wordRanges, memRanges, List.any_cons, List.any_cons, List.any_cons,
    ← memRanges, isWordChar, isAlphanumeric, charIn, hchar, hchar, hchar, Bool.eq_iff_iff]
  simp only [Bool.or_eq_true, Bool.and_eq_true, decide_eq_true_eq]
  tauto

theorem isBlank_of_isWordChar (hc : isWordChar c = true) : isBlank c = false := by
  have hapart : rangeBits wordRanges &&& rangeBits blankRanges = 0 := by
    decide +kernel
  rw [isWordChar_eq, testBit_rangeBits] at hc
  rw [isBlank_eq]
  exact memRanges_of_apart hapart hc

/-! ### Normal forms -/

/-- Whether a character is one of those that words are made of, and whether it is a blank. -/
def wordKind (c : Char) : Bool × Bool :=
  ((rangeBits wordRanges).testBit c.toNat, (rangeBits blankRanges).testBit c.toNat)

theorem isWordChar_eq_wordKind (c : Char) : isWordChar c = (wordKind c).1 :=
  isWordChar_eq c

theorem isBlank_eq_wordKind (c : Char) : isBlank c = (wordKind c).2 := by
  rw [isBlank_eq, isBlankCode, ← testBit_rangeBits]
  rfl

/-- What is gone through once, in the rows and in the tables. -/
theorem fits_wordKind : KeptByRows wordKind ∧ TablesRefine (fun c => (wordKind c).1) ∧
    TablesRefine fun c => (wordKind c).2 := by
  decide +kernel

theorem partsRefine_isWordChar : PartsRefine isWordChar where
  fits := by
    rw [funext isWordChar_eq_wordKind]
    exact fits_wordKind.2.1
  syllable := by
    have hin : ∀ c, (∃ range ∈ wordRanges, range.1 ≤ c.toNat ∧ c.toNat ≤ range.2) →
        isWordChar c = true := by
      rintro c ⟨range, hrange, hfirst, hlast⟩
      rw [isWordChar_eq, testBit_rangeBits, memRanges, List.any_eq_true]
      exact ⟨range, hrange, by simp [hfirst, hlast]⟩
    intro c hsyllable
    simp only [isSyllable, Bool.and_eq_true, decide_eq_true_eq] at hsyllable
    rw [hin c ⟨(0xAC00, 0xD7A3), by decide, hsyllable.1, Nat.le_of_lt_succ hsyllable.2⟩]
    exact (hin _ ⟨(0x10FC, 0x1248), by decide, by decide, by decide⟩).symm

theorem partsRefine_isBlank : PartsRefine isBlank where
  fits := by
    rw [funext isBlank_eq_wordKind]
    exact fits_wordKind.2.2
  syllable := by
    intro c hsyllable
    simp only [isSyllable, Bool.and_eq_true, decide_eq_true_eq] at hsyllable
    rw [isBlank_eq, isBlank_eq, isBlankCode_of_lt (Nat.lt_of_lt_of_le (by decide) hsyllable.1)]
    rfl

theorem isBlank_of_valid (hvalid : ∀ c ∈ lower (canonical cs), isWordChar c = true) :
    ∀ c ∈ cs, isBlank c = false :=
  (partsRefine_isBlank.forall_lower_canonical_iff fits_wordKind.1 isBlank_eq_wordKind).mp
    fun c hc => isBlank_of_isWordChar (hvalid c hc)

theorem exists_isWordChar_of_valid (hvalid : ∀ c ∈ lower (canonical cs), isWordChar c = true)
    (hsome : lower (canonical cs) ≠ []) : ∃ c ∈ cs, isWordChar c = true := by
  by_contra hnone
  have hall : ∀ c ∈ cs, isWordChar c = false := by simpa using hnone
  obtain ⟨c, hc⟩ := List.exists_mem_of_ne_nil _ hsome
  have hc' := (partsRefine_isWordChar.forall_lower_canonical_iff fits_wordKind.1
    isWordChar_eq_wordKind).mpr hall c hc
  rw [hvalid c hc] at hc'
  cases hc'

end Apprentice
