import Apprentice.Proofs.Expr.Returns

/-!
# The counter of levels is balanced

There is one counter for all calls. A call that goes a level deeper counts up, and no call goes
deeper than the limit. Each waiting call knows how to set the counter back: it keeps what the
counter was when it began, or it counts down once. So the calls that have gone deeper and wait there
are never more than the counter says, and the counter is never counted down at zero.
-/

namespace Apprentice.Expr.Descent

variable {endOffset depth inner outer : Nat} {frames kept : List Frame} {frame next : Frame}
  {s t : State} {tree : Expr}

/-! ### Calls that have gone deeper -/

/-- Whether a call has gone a level deeper and waits there. -/
def Frame.isDeeper : Frame → Bool
  | .chain .disjunction _ _ | .negation | .sign => true
  | _ => false

/-- How many calls have gone a level deeper and wait there. -/
def State.active (s : State) : Nat :=
  s.frames.countP Frame.isDeeper

/-- Whether the counter is high enough for all calls that wait: each can set it back to what it was,
and that is lower if the call has gone deeper. -/
inductive Counts : List Frame → Nat → Prop
  | nil (depth : Nat) : Counts [] depth
  | cons {frame : Frame} {frames : List Frame} {depth outer : Nat}
      (houter : frame.outer? depth = some outer)
      (hle : outer + (if frame.isDeeper then 1 else 0) ≤ depth) (hcounts : Counts frames outer) :
      Counts (frame :: frames) depth

def State.Counted : State → Prop
  | .call _ frames depth _ | .back _ frames depth _ => Counts frames depth ∧ depth ≤ maxDepth
  | .done _ => True
  | .underflow => False

theorem Frame.Begins.counts (hbegins : frame.Begins depth inner) (hcounts : Counts frames depth) :
    Counts (frame :: frames) inner := by
  cases hbegins with
  | chain hlevel =>
      refine .cons rfl ?_ hcounts
      cases ‹Chain› with
      | disjunction => exact absurd rfl hlevel
      | conjunction | sum | product => exact Nat.le_refl _
  | _ => exact .cons rfl (Nat.le_refl _) hcounts

theorem Frame.Begins.le_maxDepth (hbegins : frame.Begins depth inner) (hle : depth ≤ maxDepth) :
    inner ≤ maxDepth := by
  cases hbegins <;> omega

theorem Frame.Takes.counts (htakes : frame.Takes tree depth inner next)
    (hcounts : Counts (frame :: frames) depth) : Counts (next :: frames) inner := by
  cases hcounts with
  | cons houter hle hcounts =>
      cases htakes with
      | chain _ level base before op =>
          obtain rfl := Option.some.inj houter
          refine .cons rfl ?_ hcounts
          cases level <;> exact Nat.le_succ_of_le hle
      | comparison | enclosed => exact .cons houter hle hcounts
      | subscripted _ base target =>
          obtain rfl := Option.some.inj houter
          exact .cons rfl (Nat.le_succ_of_le hle) hcounts

theorem Frame.Takes.le_maxDepth (htakes : frame.Takes tree depth inner next)
    (hle : depth ≤ maxDepth) : inner ≤ maxDepth := by
  cases htakes <;> omega

theorem Counts.finish (hcounts : Counts (frame :: frames) depth)
    (houter : frame.outer? depth = some outer) : Counts frames outer ∧ outer ≤ depth := by
  cases hcounts with
  | cons hother hle hcounts =>
      obtain rfl := Option.some.inj (houter.symm.trans hother)
      exact ⟨hcounts, Nat.le_trans (Nat.le_add_right _ _) hle⟩

theorem Move.counted (hmove : Move s t) (hcounted : s.Counted) : t.Counted := by
  cases hmove with
  | tighten | leaf => exact hcounted
  | wait _ _ _ hbegins => exact ⟨hbegins.counts hcounted.1, hbegins.le_maxDepth hcounted.2⟩
  | goOn _ _ htakes => exact ⟨htakes.counts hcounted.1, htakes.le_maxDepth hcounted.2⟩
  | finish _ _ houter =>
      obtain ⟨hcounts, hle⟩ := hcounted.1.finish houter
      exact ⟨hcounts, Nat.le_trans hle hcounted.2⟩
  | underflow _ _ _ houter =>
      cases hcounted.1 with
      | cons hother =>
          rw [houter] at hother
          cases hother
  | accept | fail | stay => trivial
  | stuck => exact hcounted

theorem Above.tokens_suffix (habove : Above endOffset kept s t) : t.tokens <:+ s.tokens := by
  induction habove with
  | stay => exact List.suffix_refl _
  | next _ _ ih => exact ih.trans (move_step endOffset _).tokens_suffix

end Apprentice.Expr.Descent
