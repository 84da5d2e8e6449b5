import Apprentice.Text.Canonical

/-!
# What the canonical form is made of

The canonical form of a text consists of parts of its characters and of composites of these. So a
class of characters that is closed under decomposition and composition holds all characters of the
canonical form if it holds those of the text.
-/

namespace Apprentice.Text

variable {P : Char → Prop} {cs : List Char}

theorem mem_insertMark {mark c : Char} : c ∈ insertMark mark cs ↔ c = mark ∨ c ∈ cs := by
  induction cs with
  | nil => simp [insertMark]
  | cons d cs ih =>
      rw [insertMark]
      split
      · rw [List.mem_cons, ih, List.mem_cons]
        exact or_left_comm
      · rw [List.mem_cons]

theorem mem_orderMarks {c : Char} : c ∈ orderMarks cs ↔ c ∈ cs := by
  induction cs with
  | nil => rfl
  | cons d cs ih =>
      rw [orderMarks]
      split
      · rw [List.mem_cons, ih, List.mem_cons]
      · rw [mem_insertMark, ih, List.mem_cons]

theorem composeOnto_forall (hcompose : ∀ a b c, P a → P b → composePair a b = some c → P c)
    {starter : Char} {skipped : List Char} (hstarter : P starter) (hskipped : ∀ c ∈ skipped, P c)
    (hcs : ∀ c ∈ cs, P c) : ∀ c ∈ composeOnto starter skipped cs, P c := by
  induction cs generalizing starter skipped with
  | nil =>
      rw [composeOnto]
      exact List.forall_mem_cons.mpr ⟨hstarter, fun c hc => hskipped c (List.mem_reverse.mp hc)⟩
  | cons d cs ih =>
      obtain ⟨hd, hcs⟩ := List.forall_mem_cons.mp hcs
      rw [composeOnto]
      split
      next composite hcomposite =>
        refine ih (hcompose starter d composite hstarter hd ?_) hskipped hcs
        split at hcomposite
        · cases hcomposite
        · exact hcomposite
      next =>
        split
        · refine List.forall_mem_append.mpr ⟨?_, ih hd (List.forall_mem_nil P) hcs⟩
          exact List.forall_mem_cons.mpr
            ⟨hstarter, fun c hc => hskipped c (List.mem_reverse.mp hc)⟩
        · exact ih hstarter (List.forall_mem_cons.mpr ⟨hd, hskipped⟩) hcs

theorem compose_forall (hcompose : ∀ a b c, P a → P b → composePair a b = some c → P c)
    (hcs : ∀ c ∈ cs, P c) : ∀ c ∈ compose cs, P c := by
  induction cs with
  | nil => exact List.forall_mem_nil P
  | cons d cs ih =>
      obtain ⟨hd, hcs⟩ := List.forall_mem_cons.mp hcs
      rw [compose]
      split
      · exact composeOnto_forall hcompose hd (List.forall_mem_nil P) hcs
      · exact List.forall_mem_cons.mpr ⟨hd, ih hcs⟩

theorem canonical_forall (hdecompose : ∀ c, P c → ∀ d ∈ decomposeChar c, P d)
    (hcompose : ∀ a b c, P a → P b → composePair a b = some c → P c) (hcs : ∀ c ∈ cs, P c) :
    ∀ c ∈ canonical cs, P c := by
  rw [canonical]
  split
  · exact hcs
  · refine compose_forall hcompose fun c hc => ?_
    obtain ⟨whole, hwhole, hpart⟩ := List.mem_flatMap.mp (mem_orderMarks.mp hc)
    exact hdecompose whole (hcs whole hwhole) c hpart

end Apprentice.Text
