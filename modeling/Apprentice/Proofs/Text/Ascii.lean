/-!
# ASCII

There are few ASCII characters, so what is claimed of all of them can be tried on each. Texts of the
program that it makes up itself, such as numbers, are written in them.
-/

namespace Apprentice.Text

variable {c : Char}

/-- A number that is no code point has the character of zero. -/
theorem code_ofNat {P : Nat → Prop} {code : Nat} (hzero : P 0) (hcode : P code) :
    P (Char.ofNat code).toNat := by
  by_cases hvalid : code.isValidChar
  · rw [Char.ofNat, dif_pos hvalid]
    exact hcode
  · rw [Char.ofNat, dif_neg hvalid]
    exact hzero

def isAscii (c : Char) : Bool :=
  c.toNat < 0x80

theorem forall_ascii {P : Char → Prop} (hall : ∀ n < 0x80, P (Char.ofNat n))
    (hascii : isAscii c = true) : P c := by
  have hc := hall c.toNat (of_decide_eq_true hascii)
  rwa [Char.ofNat_toNat] at hc

theorem isAscii_of_isDigit (hdigit : c.isDigit = true) : isAscii c = true := by
  simp only [Char.isDigit, Bool.and_eq_true, decide_eq_true_eq] at hdigit
  exact decide_eq_true (Nat.lt_of_le_of_lt hdigit.2 (by decide))

theorem isAscii_of_isLower (hlower : c.isLower = true) : isAscii c = true := by
  obtain ⟨-, hlast⟩ := Bool.and_eq_true_iff.mp hlower
  exact decide_eq_true (Nat.lt_of_le_of_lt (of_decide_eq_true hlast) (by decide))

theorem isAscii_of_isAlpha (halpha : c.isAlpha = true) : isAscii c = true := by
  rcases Bool.or_eq_true_iff.mp halpha with hupper | hlower
  · exact decide_eq_true (Nat.lt_of_le_of_lt (of_decide_eq_true hupper).2 (by decide))
  · exact isAscii_of_isLower hlower

end Apprentice.Text
