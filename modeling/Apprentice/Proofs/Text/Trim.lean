import Apprentice.Proofs.Text.Ascii
import Apprentice.Text.Blank
import Mathlib.Data.List.DropRight

/-!
# Trimming

Trimming stops at the first and at the last character that is no blank, so what stands between them
does not matter, and to trim once is enough.
-/

namespace Apprentice.Text

variable {c : Char} {cs : List Char}

theorem trimStart_cons (hc : isBlank c = false) (cs : List Char) :
    trimStart (c :: cs) = c :: cs :=
  List.dropWhile_cons_of_neg (by simp [hc])

theorem trimStart_append (hc : isBlank c = false) (cs ds : List Char) :
    trimStart (cs ++ c :: ds) = trimStart cs ++ c :: ds := by
  induction cs with
  | nil => exact trimStart_cons hc ds
  | cons b cs ih =>
      cases hb : isBlank b with
      | false => rw [trimStart_cons hb, List.cons_append, trimStart_cons hb]
      | true =>
          rw [trimStart, trimStart, List.cons_append, List.dropWhile_cons_of_pos hb,
            List.dropWhile_cons_of_pos hb]
          exact ih

theorem trimEnd_concat (hc : isBlank c = false) (cs : List Char) :
    trimEnd (cs ++ [c]) = cs ++ [c] :=
  List.rdropWhile_concat_neg isBlank cs c (by simp [hc])

theorem trimEnd_trimEnd (cs : List Char) : trimEnd (trimEnd cs) = trimEnd cs :=
  List.rdropWhile_idempotent isBlank cs

theorem trimStart_trim (cs : List Char) : trimStart (trim cs) = trim cs := by
  rw [trim]
  obtain ⟨blanks, hsplit⟩ := List.rdropWhile_prefix isBlank (trimStart cs)
  change trimEnd (trimStart cs) ++ blanks = trimStart cs at hsplit
  cases hleft : trimEnd (trimStart cs) with
  | nil => rfl
  | cons d ds =>
      have hstart : trimStart cs = d :: (ds ++ blanks) := by
        rw [← hsplit, hleft]
        rfl
      have hd : isBlank d = false := by
        have hhead := List.head_dropWhile_not isBlank (l := cs) (by
          intro hnil
          exact List.cons_ne_nil _ _ (hstart.symm.trans hnil))
        have hsame : (cs.dropWhile isBlank).head? = some d := by
          change (trimStart cs).head? = _
          rw [hstart]
          rfl
        rwa [← Option.some.inj ((List.head?_eq_some_head _).symm.trans hsame)]
      exact trimStart_cons hd ds

theorem trim_trim (cs : List Char) : trim (trim cs) = trim cs := by
  rw [trim, trimStart_trim]
  exact trimEnd_trimEnd (trimStart cs)

theorem trimmed_trimmed (s : String) : trimmed (trimmed s) = trimmed s := by
  rw [trimmed, trimmed, String.toList_ofList, trim_trim]

theorem trim_sublist (cs : List Char) : (trim cs).Sublist cs :=
  (List.rdropWhile_prefix isBlank (trimStart cs)).sublist.trans (List.dropWhile_sublist isBlank)

theorem trim_of_forall (hcs : ∀ c ∈ cs, isBlank c = false) : trim cs = cs := by
  have hstart : trimStart cs = cs := by
    cases cs with
    | nil => rfl
    | cons c cs => exact trimStart_cons (hcs c List.mem_cons_self) cs
  rw [trim, hstart]
  rcases List.eq_nil_or_concat cs with rfl | ⟨front, last, rfl⟩
  · rfl
  · rw [List.concat_eq_append] at hcs ⊢
    exact trimEnd_concat (hcs last (by simp)) front

theorem isBlank_of_isDigit (hdigit : c.isDigit = true) : isBlank c = false :=
  forall_ascii (P := fun c => c.isDigit = true → isBlank c = false) (by decide +kernel)
    (isAscii_of_isDigit hdigit) hdigit

end Apprentice.Text
