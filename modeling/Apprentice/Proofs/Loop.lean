import Mathlib.Data.PFun

/-!
# Loops without a bound

The body of a loop gives an answer, or a state to go on from. A loop that has no bound of its own
may go on for ever, so it has a value only if it comes to an answer.
-/

namespace Apprentice

variable {σ α : Type} {body : σ → α ⊕ σ} {s next : σ} {answer : α}

/-- Does the body again and again, until it gives an answer. -/
def loop (body : σ → α ⊕ σ) : σ → Part α :=
  PFun.fix fun s => Part.some (body s)

theorem loop_answer (hanswer : body s = .inl answer) : loop body s = Part.some answer := by
  refine Part.eq_some_iff.mpr (PFun.fix_stop ?_)
  rw [hanswer]
  exact Part.mem_some _

theorem loop_next (hnext : body s = .inr next) : loop body s = loop body next := by
  refine PFun.fix_fwd_eq ?_
  rw [hnext]
  exact Part.mem_some _

end Apprentice
