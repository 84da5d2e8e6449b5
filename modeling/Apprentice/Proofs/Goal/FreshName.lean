import Apprentice.Goal.Planning
import Apprentice.Proofs.Text.LowerCase
import Apprentice.Proofs.Text.Trim
import Apprentice.Proofs.World.Names

/-!
# Fresh names

The names tried for a new object have different keys, because the number stands behind an underscore
that keeps it apart from the stem. There is one more of them than there are objects, so one of them
is not in use.
-/

namespace Apprentice

variable {w : World} {stem : String}

theorem toList_numberedName (stem : String) (n : Nat) :
    (numberedName stem n).toList = stem.toList ++ '_' :: Nat.toDigits 10 n := by
  rw [numberedName, String.toList_append, String.toList_append, Nat.toString_eq_repr,
    Nat.toList_repr, List.append_assoc]
  rfl

theorem isPlain_of_mem_toDigits {n : Nat} {c : Char} (hc : c ∈ Nat.toDigits 10 n) :
    Text.isPlain c = true :=
  Text.isPlain_of_isDigit (Nat.isDigit_of_mem_toDigits (by decide) (by decide) hc)

theorem trimEnd_append_toDigits (cs : List Char) (n : Nat) :
    Text.trimEnd (cs ++ Nat.toDigits 10 n) = cs ++ Nat.toDigits 10 n := by
  rcases List.eq_nil_or_concat (Nat.toDigits 10 n) with hnil | ⟨front, last, hlast⟩
  · exact absurd hnil Nat.toDigits_ne_nil
  · rw [hlast, List.concat_eq_append, ← List.append_assoc]
    have hmem : last ∈ Nat.toDigits 10 n := by
      rw [hlast]
      simp
    exact Text.trimEnd_concat
      (Text.isBlank_of_isDigit (Nat.isDigit_of_mem_toDigits (by decide) (by decide) hmem)) _

theorem exists_nameKey_numberedName (stem : String) :
    ∃ front, ∀ n, nameKey (numberedName stem n) = front ++ '_' :: Nat.toDigits 10 n := by
  obtain ⟨front, hfront⟩ := Text.exists_lowerAfter_append
    (c := '_') (by decide +kernel) [] (Text.trimStart stem.toList)
  refine ⟨front, fun n => ?_⟩
  have hplain : ∀ c ∈ '_' :: Nat.toDigits 10 n, Text.isPlain c = true :=
    List.forall_mem_cons.mpr ⟨by decide +kernel, fun _ => isPlain_of_mem_toDigits⟩
  have htrim : Text.trim (numberedName stem n).toList =
      Text.trimStart stem.toList ++ '_' :: Nat.toDigits 10 n := by
    have hend := trimEnd_append_toDigits (Text.trimStart stem.toList ++ ['_']) n
    rw [List.append_assoc] at hend
    rw [Text.trim, toList_numberedName, Text.trimStart_append rfl]
    exact hend
  rw [nameKey, htrim, Text.lower, hfront, Text.lowerAfter_of_plain hplain]

theorem nameKey_numberedName_inj {n m : Nat}
    (heq : nameKey (numberedName stem n) = nameKey (numberedName stem m)) : n = m := by
  obtain ⟨front, hfront⟩ := exists_nameKey_numberedName stem
  rw [hfront, hfront, List.append_cancel_left_eq, List.cons_inj_right] at heq
  have hvalue := congrArg (fun digits => Nat.ofDigitChars 10 digits 0) heq
  simpa using hvalue

theorem freshNameFrom_eq {n tries k : Nat} (hlt : k < tries)
    (hfree : w.named? (numberedName stem (n + k)) = none)
    (hused : ∀ j < k, w.named? (numberedName stem (n + j)) ≠ none) :
    freshNameFrom stem w n tries = numberedName stem (n + k) := by
  induction tries generalizing n k with
  | zero => cases hlt
  | succ tries ih =>
      cases k with
      | zero =>
          rw [Nat.add_zero] at hfree
          rw [freshNameFrom, hfree, Nat.add_zero]
          rfl
      | succ k =>
          have hshift : ∀ j, n + (j + 1) = n + 1 + j := fun j => by omega
          have hfirst : w.named? (numberedName stem n) ≠ none := hused 0 (Nat.succ_pos k)
          rw [hshift] at hfree ⊢
          rw [freshNameFrom, if_neg (by simpa using hfirst)]
          refine ih (Nat.lt_of_succ_lt_succ hlt) hfree fun j hj => ?_
          rw [← hshift]
          exact hused (j + 1) (Nat.succ_lt_succ hj)

/-- A fresh name is the first numbered name that no object has, and one of the first names, one more
than there are objects, is free. -/
theorem freshName_spec (d : Description) (w : World) :
    ∃ k, 1 ≤ k ∧ k ≤ w.objects.length + 1 ∧ freshName d w = numberedName (nameStem d) k ∧
      w.named? (freshName d w) = none ∧
      ∀ j, 1 ≤ j → j < k → w.named? (numberedName (nameStem d) j) ≠ none := by
  have hinj : Function.Injective fun k => nameKey (numberedName (nameStem d) (1 + k)) := by
    intro i j heq
    exact Nat.add_left_cancel (nameKey_numberedName_inj heq)
  obtain ⟨k, hk, hfree, hused⟩ := w.exists_first_unused hinj
  have hname : freshName d w = numberedName (nameStem d) (1 + k) :=
    freshNameFrom_eq (Nat.lt_succ_of_le hk) hfree hused
  refine ⟨1 + k, Nat.le_add_right 1 k, by omega, hname, by rwa [hname], fun j hj hjk => ?_⟩
  have hearlier := hused (j - 1) (by omega)
  rwa [Nat.add_sub_cancel' hj] at hearlier

/-! ### Names of words without blanks -/

theorem forall_mem_intercalate {P : Char → Prop} {separator : String} {words : List String}
    (hseparator : ∀ c ∈ separator.toList, P c) (hwords : ∀ word ∈ words, ∀ c ∈ word.toList, P c) :
    ∀ c ∈ (separator.intercalate words).toList, P c := by
  induction words with
  | nil => exact List.forall_mem_nil P
  | cons word words ih =>
      obtain ⟨hword, hwords⟩ := List.forall_mem_cons.mp hwords
      cases words with
      | nil =>
          rw [String.intercalate_singleton]
          exact hword
      | cons next words =>
          rw [String.intercalate_cons_cons, String.toList_append, String.toList_append]
          exact List.forall_mem_append.mpr
            ⟨List.forall_mem_append.mpr ⟨hword, hseparator⟩, ih hwords⟩

/-- A fresh name of words without blanks has no blanks. -/
theorem trim_freshName {d : Description} (hwords : ∀ conjunction ∈ d.alternatives,
      ∀ term ∈ conjunction, ∀ c ∈ term.word.toList, Text.isBlank c = false) (w : World) :
    Text.trim (freshName d w).toList = (freshName d w).toList := by
  have hstem : ∀ c ∈ (nameStem d).toList, Text.isBlank c = false := by
    rw [nameStem]
    split
    next => simp [Text.isBlank]
    next =>
      refine forall_mem_intercalate (by simp [Text.isBlank]) fun word hword => ?_
      obtain ⟨term, hterm, rfl⟩ := List.mem_map.mp hword
      cases hfirst : d.alternatives with
      | nil =>
          rw [hfirst] at hterm
          cases hterm
      | cons conjunction alternatives =>
          rw [hfirst] at hterm hwords
          exact hwords conjunction List.mem_cons_self term (List.mem_filter.mp hterm).1
  obtain ⟨k, -, -, hname, -⟩ := freshName_spec d w
  rw [hname, toList_numberedName]
  refine Text.trim_of_forall (List.forall_mem_append.mpr ⟨hstem, ?_⟩)
  refine List.forall_mem_cons.mpr ⟨rfl, fun c hc => ?_⟩
  exact Text.isBlank_of_isDigit (Nat.isDigit_of_mem_toDigits (by decide) (by decide) hc)

end Apprentice
