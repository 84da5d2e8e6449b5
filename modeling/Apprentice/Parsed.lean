/-!
# Results of parsers

A parser takes symbols from the front of a list. Its result carries the proof that it took at least
one, so that a parser that calls others, or itself, on what they leave is seen to end.
-/

namespace Apprentice

/-- What a parser read, and fewer than `bound` remaining symbols. -/
structure Parsed (σ α : Type) (bound : Nat) where
  value : α
  rest : List σ
  shorter : rest.length < bound

/-- What follows the first remaining symbol is shorter as well. -/
theorem Parsed.length_tail_lt {σ α : Type} {bound : Nat} (p : Parsed σ α bound) {x : σ}
    {xs : List σ} (h : p.rest = x :: xs) : xs.length < bound := by
  have hshorter := p.shorter
  rw [h, List.length_cons] at hshorter
  exact Nat.lt_of_succ_lt hshorter

end Apprentice
