import Apprentice.Proofs.Text.Canonical
import Mathlib.Data.List.Chain

/-!
# The order of marks

Sorting the runs of marks settles an order: what is sorted stays as it is, and a mark may be taken
to the front of marks of lower classes before it without effect. The second fact is what makes it
harmless that composition takes a mark out from behind others.
-/

namespace Apprentice.Text

variable {a b c mark : Char} {cs ds marks : List Char}

/-- Whether each run of marks is sorted by class. -/
def Ordered (cs : List Char) : Prop :=
  cs.IsChain fun a b => combiningClass b = 0 ∨ combiningClass a ≤ combiningClass b

theorem Ordered.tail (hcs : Ordered (a :: cs)) : Ordered cs :=
  List.IsChain.tail hcs

/-! ### Putting in a mark -/

theorem insertMark_pass (hclass : combiningClass c ≠ 0)
    (hlt : combiningClass c < combiningClass mark) (cs : List Char) :
    insertMark mark (c :: cs) = c :: insertMark mark cs := by
  rw [insertMark, if_pos]
  simp only [Bool.and_eq_true, decide_eq_true_eq]
  omega

theorem insertMark_stop (hstop : combiningClass c = 0 ∨ combiningClass mark ≤ combiningClass c)
    (cs : List Char) : insertMark mark (c :: cs) = mark :: c :: cs := by
  rw [insertMark, if_neg]
  simp only [Bool.and_eq_true, decide_eq_true_eq]
  omega

theorem insertMark_of_ordered (hcs : Ordered (mark :: cs)) : insertMark mark cs = mark :: cs := by
  cases cs with
  | nil => rfl
  | cons c cs => exact insertMark_stop (List.isChain_cons_cons.mp hcs).1 cs

theorem ordered_insertMark (hcs : Ordered cs) :
    Ordered (insertMark mark cs) ∧ ∀ a, combiningClass a ≤ combiningClass mark →
      Ordered (a :: cs) → Ordered (a :: insertMark mark cs) := by
  induction cs with
  | nil => exact ⟨.singleton mark, fun a hle _ => .cons_cons (.inr hle) (.singleton mark)⟩
  | cons c cs ih =>
      by_cases hstop : combiningClass c = 0 ∨ combiningClass mark ≤ combiningClass c
      · rw [insertMark_stop hstop]
        exact ⟨.cons_cons hstop hcs, fun a hle _ => .cons_cons (.inr hle) (.cons_cons hstop hcs)⟩
      · rw [insertMark_pass (by omega) (by omega)]
        have hrest : Ordered (c :: insertMark mark cs) := (ih hcs.tail).2 c (by omega) hcs
        exact ⟨hrest, fun a _ ha => .cons_cons (List.isChain_cons_cons.mp ha).1 hrest⟩

theorem insertMark_comm (ha : combiningClass a ≠ 0) (hlt : combiningClass a < combiningClass b)
    (cs : List Char) : insertMark a (insertMark b cs) = insertMark b (insertMark a cs) := by
  induction cs with
  | nil =>
      exact (insertMark_stop (.inr (Nat.le_of_lt hlt)) []).trans (insertMark_pass ha hlt []).symm
  | cons c cs ih =>
      by_cases hb : combiningClass c = 0 ∨ combiningClass b ≤ combiningClass c
      · rw [insertMark_stop hb, insertMark_stop (.inr (Nat.le_of_lt hlt)),
          insertMark_stop (hb.imp_right (Nat.le_of_lt hlt).trans), insertMark_pass ha hlt,
          insertMark_stop hb]
      · have hpass : insertMark b (c :: cs) = c :: insertMark b cs :=
          insertMark_pass (by omega) (by omega) cs
        rw [hpass]
        by_cases hstop : combiningClass a ≤ combiningClass c
        · rw [insertMark_stop (.inr hstop), insertMark_stop (.inr hstop), insertMark_pass ha hlt,
            insertMark_pass (by omega) (by omega)]
        · rw [insertMark_pass (by omega) (by omega), insertMark_pass (by omega) (by omega),
            insertMark_pass (by omega) (by omega), ih]

/-! ### Sorting -/

theorem orderMarks_starter (hclass : combiningClass c = 0) (cs : List Char) :
    orderMarks (c :: cs) = c :: orderMarks cs := by
  rw [orderMarks, if_pos (by simpa using hclass)]

theorem orderMarks_mark (hclass : combiningClass c ≠ 0) (cs : List Char) :
    orderMarks (c :: cs) = insertMark c (orderMarks cs) := by
  rw [orderMarks, if_neg (by simpa using hclass)]

theorem ordered_orderMarks (cs : List Char) : Ordered (orderMarks cs) := by
  induction cs with
  | nil => exact .nil
  | cons c cs ih =>
      by_cases hclass : combiningClass c = 0
      · rw [orderMarks_starter hclass]
        cases hsorted : orderMarks cs with
        | nil => exact .singleton c
        | cons d ds =>
            rw [hsorted] at ih
            exact .cons_cons (.inr (hclass ▸ Nat.zero_le _)) ih
      · rw [orderMarks_mark hclass]
        exact (ordered_insertMark ih).1

theorem orderMarks_of_ordered (hcs : Ordered cs) : orderMarks cs = cs := by
  induction cs with
  | nil => rfl
  | cons c cs ih =>
      by_cases hclass : combiningClass c = 0
      · rw [orderMarks_starter hclass, ih hcs.tail]
      · rw [orderMarks_mark hclass, ih hcs.tail, insertMark_of_ordered hcs]

/-- How a text is sorted depends on what stands at its end only as far as the sorted form of that
goes. -/
theorem orderMarks_append_congr (hds : orderMarks cs = orderMarks ds) (front : List Char) :
    orderMarks (front ++ cs) = orderMarks (front ++ ds) := by
  induction front with
  | nil => exact hds
  | cons c front ih => rw [List.cons_append, List.cons_append, orderMarks, orderMarks, ih]

theorem orderMarks_move
    (hmarks : ∀ m ∈ marks, combiningClass m ≠ 0 ∧ combiningClass m < combiningClass mark)
    (cs : List Char) : orderMarks (marks ++ mark :: cs) = orderMarks (mark :: (marks ++ cs)) := by
  induction marks with
  | nil => rfl
  | cons m marks ih =>
      obtain ⟨⟨hm, hlt⟩, hmarks⟩ := List.forall_mem_cons.mp hmarks
      have hmark : combiningClass mark ≠ 0 := by omega
      rw [List.cons_append, orderMarks_mark hm, ih hmarks, orderMarks_mark hmark,
        insertMark_comm hm hlt, orderMarks_mark hmark, List.cons_append, orderMarks_mark hm]

end Apprentice.Text
