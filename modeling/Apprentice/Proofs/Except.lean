/-!
# Computations that can fail

What is behind a computation that comes out well: its steps came out well, one after the other.
-/

namespace Apprentice

variable {α β ε ε' : Type} {x : Except ε α} {a : α} {b : β}

theorem bind_eq_ok {f : α → Except ε β} (hok : (x >>= f) = .ok b) :
    ∃ a, x = .ok a ∧ f a = .ok b := by
  cases x with
  | error _ => cases hok
  | ok a => exact ⟨a, rfl, hok⟩

theorem map_eq_ok {f : α → β} (hok : x.map f = .ok b) : ∃ a, x = .ok a ∧ f a = b := by
  cases x with
  | error _ => cases hok
  | ok a => exact ⟨a, rfl, Except.ok.inj hok⟩

theorem mapError_eq_ok {f : ε → ε'} (hok : x.mapError f = .ok a) : x = .ok a := by
  cases x with
  | error _ => cases hok
  | ok _ => exact congrArg _ (Except.ok.inj hok)

theorem toOption_eq_some_iff : x.toOption = some a ↔ x = .ok a := by
  cases x <;> simp [Except.toOption]

/-- What every step keeps is kept by a fold that goes through. -/
theorem foldlM_preserves {P : β → Prop} {f : β → α → Except ε β} {xs : List α}
    (hstep : ∀ b, P b → ∀ x ∈ xs, ∀ next, f b x = .ok next → P next) {last : β} (hb : P b)
    (hok : xs.foldlM f b = .ok last) : P last := by
  induction xs generalizing b with
  | nil =>
    cases hok
    exact hb
  | cons x xs ih =>
    rw [List.foldlM_cons] at hok
    obtain ⟨next, hnext, hok⟩ := bind_eq_ok hok
    exact ih (fun b hb x hx => hstep b hb x (List.mem_cons_of_mem _ hx))
      (hstep b hb x List.mem_cons_self next hnext) hok

end Apprentice
