import Apprentice.Proofs.Lexicon.Taught
import Apprentice.Proofs.Text.LowerCase

/-!
# Words that are normal forms

The normal form of a word need not be a normal form itself, but it is if the word is written in
ASCII: nothing is composed there, and a letter is put into lower case once and for all.
-/

namespace Apprentice

variable {word : String} {cs : List Char}

namespace Text

theorem canonical_of_ascii (hascii : ∀ c ∈ cs, isAscii c = true) : canonical cs = cs := by
  rw [canonical, if_pos]
  refine List.all_eq_true.mpr fun c hc => decide_eq_true ?_
  exact Nat.lt_trans (of_decide_eq_true (hascii c hc)) (by decide)

theorem lowerAfter_of_ascii (hascii : ∀ c ∈ cs, isAscii c = true) (before : List Char) :
    lowerAfter before cs = cs.map Char.toLower := by
  induction cs generalizing before with
  | nil => rfl
  | cons c cs ih =>
      obtain ⟨hc, hcs⟩ := List.forall_mem_cons.mp hascii
      have hlt : c.toNat < 0x80 := of_decide_eq_true hc
      rw [lowerAfter, if_neg (by simp; omega), ih hcs, lowerChar, if_pos hlt]
      rfl

end Text

/-- A word of plain ASCII characters that can be taught is its own normal form. -/
theorem normalizeWord_of_plain (hvalid : isValidWord word = true)
    (hascii : ∀ c ∈ word.toList, Text.isAscii c = true)
    (hplain : ∀ c ∈ word.toList, Text.isPlain c = true) : normalizeWord word = word := by
  have hblank : ∀ c ∈ word.toList, Text.isBlank c = false := by
    intro c hc
    have hword : isWordChar c = true :=
      List.all_eq_true.mp (Bool.and_eq_true_iff.mp hvalid).2 c hc
    -- no ASCII blank may occur in a word
    have hall : Text.isBlank c = true → isWordChar c = false :=
      Text.forall_ascii (P := fun c => Text.isBlank c = true → isWordChar c = false)
        (by decide +kernel) (hascii c hc)
    cases hblank : Text.isBlank c with
    | false => rfl
    | true => cases (hall hblank).symm.trans hword
  rw [normalizeWord, Text.trim_of_forall hblank, Text.canonical_of_ascii hascii, Text.lower,
    Text.lowerAfter_of_plain hplain, String.ofList_toList]

theorem normalizeWord_ascii (hascii : ∀ c ∈ word.toList, Text.isAscii c = true) :
    ∀ c ∈ (normalizeWord word).toList, Text.isAscii c = true ∧ Text.isPlain c = true := by
  have htrim : ∀ c ∈ Text.trim word.toList, Text.isAscii c = true := fun c hc =>
    hascii c ((Text.trim_sublist word.toList).subset hc)
  intro c hc
  rw [normalizeWord, String.toList_ofList, Text.canonical_of_ascii htrim, Text.lower,
    Text.lowerAfter_of_ascii htrim] at hc
  obtain ⟨d, hd, rfl⟩ := List.mem_map.mp hc
  exact Text.forall_ascii
    (P := fun d => Text.isAscii d.toLower = true ∧ Text.isPlain d.toLower = true)
    (by decide +kernel) (htrim d hd)

theorem Lexicon.normal_of_ascii {lessons : List Lesson}
    (hascii : ∀ lesson ∈ lessons, lesson.word.toList.all Text.isAscii = true) :
    ∀ e ∈ (ofLessons lessons).entries, normalizeWord e.word = e.word := by
  intro e he
  obtain ⟨lesson, hlesson, htaught⟩ := taught_ofLessons he
  have hchars := normalizeWord_ascii (List.all_eq_true.mp (hascii lesson hlesson))
  rw [← htaught.normal] at hchars
  exact normalizeWord_of_plain htaught.valid (fun c hc => (hchars c hc).1)
    fun c hc => (hchars c hc).2

end Apprentice
