import Apprentice.Proofs.Text.Blank
import Apprentice.Proofs.Text.Trim
import Apprentice.Proofs.Text.Uncapitalized

/-!
# The ends of a text

A text from which characters of a kind are dropped at both ends, as blanks are when it is trimmed,
is left as it is exactly if neither end is of the kind. Lower case makes blanks of blanks and of
nothing else, so a text has blanks around it in lower case exactly if it has blanks around it.
-/

namespace Apprentice.Text

variable {p : Char → Bool} {c d : Char} {cs : List Char}

/-! ### Characters of a kind -/

/-- What is left of a text when characters of a kind are dropped at both ends. -/
def strip (p : Char → Bool) (cs : List Char) : List Char :=
  (cs.dropWhile p).rdropWhile p

theorem trim_eq_strip (cs : List Char) : trim cs = strip isBlank cs :=
  rfl

theorem exists_strip (p : Char → Bool) (cs : List Char) :
    ∃ front back, cs = front ++ strip p cs ++ back ∧ (∀ c ∈ front, p c = true) ∧
      ∀ c ∈ back, p c = true := by
  refine ⟨cs.takeWhile p, (cs.dropWhile p).rtakeWhile p, ?_, fun c => List.mem_takeWhile_imp,
    fun c => List.mem_rtakeWhile_imp⟩
  rw [strip, List.append_assoc, List.rdropWhile_append_rtakeWhile, List.takeWhile_append_dropWhile]

theorem strip_sublist (p : Char → Bool) (cs : List Char) : (strip p cs).Sublist cs :=
  (List.rdropWhile_prefix p (cs.dropWhile p)).sublist.trans (List.dropWhile_sublist p)

theorem strip_eq_self_iff :
    strip p cs = cs ↔ (∀ c ∈ cs.head?, p c = false) ∧ ∀ c ∈ cs.getLast?, p c = false := by
  have hstart : cs.dropWhile p = cs ↔ ∀ c ∈ cs.head?, p c = false := by
    cases cs with
    | nil => simp
    | cons c cs => simp [List.dropWhile_eq_self_iff]
  have hend : cs.rdropWhile p = cs ↔ ∀ c ∈ cs.getLast?, p c = false := by
    rcases List.eq_nil_or_concat cs with rfl | ⟨front, last, rfl⟩
    · simp
    · simp [List.rdropWhile_eq_self_iff]
  constructor
  · intro hstrip
    -- what is dropped at the start is not made up for at the end
    have hlength : cs.length ≤ (cs.dropWhile p).length := by
      conv_lhs => rw [← hstrip]
      exact (List.rdropWhile_prefix p (cs.dropWhile p)).length_le
    have hdrop : cs.dropWhile p = cs := (List.dropWhile_suffix p).eq_of_length_le hlength
    rw [strip, hdrop] at hstrip
    exact ⟨hstart.mp hdrop, hend.mp hstrip⟩
  · rintro ⟨hfront, hback⟩
    rw [strip, hstart.mpr hfront, hend.mpr hback]

/-- To strip once is enough. -/
theorem strip_strip (p : Char → Bool) (cs : List Char) : strip p (strip p cs) = strip p cs := by
  rw [strip_eq_self_iff]
  by_cases hnone : strip p cs = []
  · rw [hnone]
    exact ⟨nofun, nofun⟩
  · refine ⟨fun c hc => ?_, fun c hc => ?_⟩
    · -- what is left starts where dropping at the start stopped
      have hstart := (List.rdropWhile_prefix p (cs.dropWhile p)).head hnone
      rw [Option.mem_def, List.head?_eq_some_head hnone] at hc
      rw [← Option.some.inj hc]
      exact (congrArg p hstart).trans (List.head_dropWhile_not p _)
    · have hlast := List.rdropWhile_last_not p (cs.dropWhile p) hnone
      rw [Option.mem_def, List.getLast?_eq_some_getLast hnone] at hc
      rw [← Option.some.inj hc]
      exact Bool.eq_false_iff.mpr hlast

theorem strip_eq_nil_iff : strip p cs = [] ↔ ∀ c ∈ cs, p c = true := by
  constructor
  · intro hstrip
    obtain ⟨front, back, hsplit, hfront, hback⟩ := exists_strip p cs
    rw [hsplit, hstrip, List.append_nil]
    exact List.forall_mem_append.mpr ⟨hfront, hback⟩
  · intro hall
    rw [strip, List.dropWhile_eq_nil_iff.mpr hall, List.rdropWhile_nil]

theorem trim_eq_self_iff :
    trim cs = cs ↔ (∀ c ∈ cs.head?, isBlank c = false) ∧ ∀ c ∈ cs.getLast?, isBlank c = false := by
  rw [trim_eq_strip, strip_eq_self_iff]

/-! ### In lower case -/

theorem lowerChar_of_isBlank (hc : isBlank c = true) : lowerChar c = [c] := by
  have hapart : bitsOf capitalCodes &&& rangeBits blankRanges = 0 := by
    decide +kernel
  have hcapital : isCapitalCode c.toNat = false := by
    rw [isBlank_eq, isBlankCode, ← testBit_rangeBits] at hc
    have hbit : (bitsOf capitalCodes &&& rangeBits blankRanges).testBit c.toNat = false := by
      rw [hapart, Nat.zero_testBit]
    rwa [Nat.testBit_and, hc, Bool.and_true] at hbit
  obtain ⟨himage, -⟩ := Bool.and_eq_true_iff.mp (isPlain_of_not_capital hcapital)
  exact eq_of_beq himage

theorem isBlank_lowerChar (hd : d ∈ lowerChar c) : isBlank d = isBlank c := by
  cases hc : isBlank c with
  | false => exact isBlank_of_mem_lowerChar hc hd
  | true =>
      rw [lowerChar_of_isBlank hc] at hd
      rwa [List.mem_singleton.mp hd]

/-- A character becomes one or more characters, which are blanks exactly if it is one. -/
theorem exists_lowerAfter_cons (before : List Char) (c : Char) (cs : List Char) :
    ∃ d ds, lowerAfter before (c :: cs) = d :: ds ++ lowerAfter (c :: before) cs ∧
      ∀ b ∈ d :: ds, isBlank b = isBlank c := by
  rw [lowerAfter]
  split
  next hsigma =>
    have hc : isBlank c = false := by
      rw [isBlank_eq, eq_of_beq hsigma]
      rfl
    refine ⟨_, [], rfl, List.forall_mem_singleton.mpr ?_⟩
    rw [hc]
    split <;> rfl
  next =>
    cases himage : lowerChar c with
    | nil =>
        simp only [lowerChar] at himage
        split at himage
        · cases himage
        · split at himage <;> cases himage
    | cons d ds => exact ⟨d, ds, rfl, fun b hb => isBlank_lowerChar (himage ▸ hb)⟩

theorem map_head?_lowerAfter (before cs : List Char) :
    (lowerAfter before cs).head?.map isBlank = cs.head?.map isBlank := by
  cases cs with
  | nil => rfl
  | cons c cs =>
      obtain ⟨d, ds, hlower, hblank⟩ := exists_lowerAfter_cons before c cs
      simp [hlower, hblank d List.mem_cons_self]

theorem map_getLast?_lowerAfter (before cs : List Char) :
    (lowerAfter before cs).getLast?.map isBlank = cs.getLast?.map isBlank := by
  induction cs generalizing before with
  | nil => rfl
  | cons c cs ih =>
      obtain ⟨d, ds, hlower, hblank⟩ := exists_lowerAfter_cons before c cs
      rw [hlower]
      cases cs with
      | nil =>
          have hlast := hblank _ (List.getLast_mem (List.cons_ne_nil d ds))
          simp [lowerAfter, List.getLast?_eq_some_getLast, hlast]
      | cons c' cs =>
          obtain ⟨d', ds', hlower', -⟩ := exists_lowerAfter_cons (c :: before) c' cs
          rw [List.getLast?_append_of_ne_nil _ (by simp [hlower']), ih, List.getLast?_cons_cons]

/-- A text is trimmed in lower case exactly if it is trimmed. -/
theorem trim_lower_eq_self_iff : trim (lower cs) = lower cs ↔ trim cs = cs := by
  have hall : ∀ o : Option Char,
      (∀ c ∈ o, isBlank c = false) ↔ o.map isBlank ≠ some true := by
    rintro (_ | c) <;> simp
  rw [trim_eq_self_iff, trim_eq_self_iff, hall, hall, hall, hall, lower, map_head?_lowerAfter,
    map_getLast?_lowerAfter]

end Apprentice.Text
