import Apprentice.Proofs.Text.CodeIndex
import Apprentice.Proofs.Text.LowerCase
import Apprentice.Proofs.Text.Tables

/-!
# Texts without capitals

A text in lower case has no characters that have another lower case, and neither decomposition nor
composition makes such characters of others. So the canonical form of a text in lower case is in
lower case, although it need not be the text.
-/

namespace Apprentice.Text

variable {c : Char} {code : Nat}

/-- The code points of the capitals: their lower case is another character. -/
def capitalCodes : List Nat :=
  0x130 :: lowerRows.flatMap rowCodes

def isCapitalCode (code : Nat) : Bool :=
  (bitsOf capitalCodes).testBit code

theorem isCapitalCode_iff : isCapitalCode code = true ↔ code ∈ capitalCodes :=
  testBit_bitsOf capitalCodes code

/-- What is gone through once, in the tables, in the rows and in ASCII. -/
theorem fits_not_capital : (TableFits fun code => isCapitalCode code = false) ∧
    (RowsFit (fun _ => True) fun code => isCapitalCode code = false) ∧
    (∀ code ∈ capitalCodes, code < syllableBase ∨ syllableBase + syllableCount ≤ code) ∧
    isCapitalCode 0x3A3 = true ∧
    ∀ code < 0x80, isCapitalCode (Char.ofNat code).toNat = false →
      isPlain (Char.ofNat code) = true := by
  decide +kernel

theorem tableClosed_not_capital : TableClosed fun code => isCapitalCode code = false where
  fits := fits_not_capital.1
  syllable := fun code hle hlt => by
    rw [← Bool.not_eq_true, isCapitalCode_iff]
    intro hmem
    have hapart := fits_not_capital.2.2.1 code hmem
    omega

/-! ### Lower case -/

theorem findSome?_lowerByRow_of_not_capital (hcode : isCapitalCode code = false) :
    lowerRows.findSome? (lowerByRow code) = none := by
  rw [isCapitalCode, testBit_bitsOf_eq_false, capitalCodes, List.mem_cons, not_or,
    List.mem_flatMap] at hcode
  rw [List.findSome?_eq_none_iff]
  intro row hrow
  by_contra hsome
  exact hcode.2 ⟨row, hrow, (mem_rowCodes hrow).mpr (Option.isSome_iff_ne_none.mpr hsome)⟩

theorem lowersInto_not_capital :
    LowersInto (fun _ => True) fun code => isCapitalCode code = false where
  fits := fits_not_capital.2.1
  other := fun code hcode _ hrows => by
    rw [isCapitalCode, testBit_bitsOf_eq_false, capitalCodes, List.mem_cons, not_or]
    exact ⟨hcode, hrows⟩

theorem isPlain_of_not_capital (hc : isCapitalCode c.toNat = false) : isPlain c = true := by
  obtain ⟨-, -, -, hsigmaCapital, hascii⟩ := fits_not_capital
  by_cases hcode : c.toNat < 0x80
  · have hplain := hascii c.toNat hcode
    rw [Char.ofNat_toNat] at hplain
    exact hplain hc
  · have hne : ∀ code, isCapitalCode code = true → c.toNat ≠ code := by
      rintro code hcapital rfl
      rw [hcapital] at hc
      cases hc
    have hdot : c.toNat ≠ 0x130 := hne 0x130 (isCapitalCode_iff.mpr List.mem_cons_self)
    have hsigma : c.toNat ≠ 0x3A3 := hne 0x3A3 hsigmaCapital
    rw [isPlain, lowerChar, if_neg hcode, if_neg (by simpa using hdot),
      findSome?_lowerByRow_of_not_capital hc]
    simpa using hsigma

/-- The canonical form of a text in lower case is in lower case. -/
theorem lower_canonical_lower (cs : List Char) :
    lower (canonical (lower cs)) = canonical (lower cs) := by
  have hlower : ∀ c ∈ lower cs, isCapitalCode c.toNat = false :=
    lowersInto_not_capital.lower fun _ _ => trivial
  have hplain := tableClosed_not_capital.canonical hlower
  exact lowerAfter_of_plain (fun c hc => isPlain_of_not_capital (hplain c hc)) []

end Apprentice.Text
