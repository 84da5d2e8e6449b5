import Apprentice.Proofs.Goal.Tick

/-!
# Where worlds come from in a tick

A tick only changes the world by carrying out actions, steps of plans and conditions of goals, and
at its end by letting time pass. So what every action keeps, and what time keeps, a tick keeps.
-/

namespace Apprentice

variable {lexicon : Lexicon} {g : Goal} {p q : Progress} {goal : GoalId} {w : World}

/-- The worlds that a world comes to when actions are carried out and time passes. -/
inductive World.Acted (w : World) : World → Prop where
  | start : Acted w w
  | acts {before : World} (hbefore : Acted w before) (action : Action) (lexicon : Lexicon) :
      Acted w (action.execute lexicon before).2
  | ticks {before : World} (hbefore : Acted w before) : Acted w before.advanceClock

namespace Progress

theorem EnsuresPlan.world {planned : Except Progress Progress}
    (hplanned : EnsuresPlan lexicon g p planned) :
    ∀ q, planned = .ok q ∨ planned = .error q → q.world = p.world := by
  rintro q (rfl | rfl)
  · cases hplanned with
    | kept => rfl
    | made => rfl
  · cases hplanned with
    | failed => exact fail_world
    | skipped => rfl

theorem continuePlan_world : (p.continuePlan g lexicon).world = p.world := by
  have hdone (hdone : ∀ plan ∈ p.plans.get? g.id,
      plan.isExhausted = true ∧ plan.repeatable = false) :
      (p.continuePlan g lexicon).world = p.world := by
    rcases continuePlan_done_cases hdone lexicon with hdropped | ⟨reason, hfailed⟩
    · rw [hdropped]
      rfl
    · rw [hfailed]
      exact fail_world
  cases hplan : p.plans.get? g.id with
  | none => exact hdone fun plan hother => by cases hplan.symm.trans hother
  | some plan =>
      cases hexhausted : plan.isExhausted with
      | false => rw [continuePlan_left hplan hexhausted]
      | true =>
          cases hrepeatable : plan.repeatable with
          | true =>
              rw [continuePlan_repeatable hplan hexhausted hrepeatable]
              rfl
          | false => exact hdone (exhausted_of_get? hplan hexhausted hrepeatable)

theorem acted_takeStep (hacted : w.Acted p.world) (goal : GoalId) (lexicon : Lexicon) :
    w.Acted (p.takeStep goal lexicon).world := by
  rw [takeStep]
  split
  next => exact hacted
  next =>
    split
    next => exact hacted
    next step _ => exact .acts hacted step lexicon

theorem acted_checkCondition (hacted : w.Acted p.world) (condition : Action) (lexicon : Lexicon) :
    w.Acted (p.checkCondition condition lexicon).2.world := by
  rw [checkCondition]
  split
  next => exact hacted
  next => exact .acts hacted condition lexicon

theorem acted_advanceGoal (hacted : w.Acted p.world) (g : Goal) (lexicon : Lexicon) :
    w.Acted (p.advanceGoal g lexicon).world := by
  rw [advanceGoal]
  split
  next =>
    rw [complete_world]
    exact hacted
  next =>
    have hplans := (ensuresPlan_ensurePlan lexicon g p).world
    split
    next stopped hstopped =>
      rw [hplans stopped (.inr hstopped)]
      exact hacted
    next planned hplanned =>
      have hworld := hplans planned (.inl hplanned)
      have hchecked := acted_checkCondition
        (acted_takeStep (hworld ▸ hacted : w.Acted planned.world) g.id lexicon) g.condition lexicon
      dsimp only
      split
      next =>
        rw [complete_world]
        exact hchecked
      next =>
        rw [continuePlan_world]
        exact hchecked

theorem acted_advance (hacted : w.Acted p.world) (lexicon : Lexicon) (goal : GoalId) :
    w.Acted (advance lexicon p goal).world := by
  rw [advance]
  split
  next => exact hacted
  next => exact acted_advanceGoal hacted _ lexicon

theorem acted_foldl (goals : List GoalId) (hacted : w.Acted p.world) (lexicon : Lexicon) :
    w.Acted (goals.foldl (advance lexicon) p).world := by
  induction goals generalizing p with
  | nil => exact hacted
  | cons goal goals ih => exact ih (acted_advance hacted lexicon goal)

end Progress

theorem Scheduler.acted_tick {before : World} (hacted : w.Acted before) (scheduler : Scheduler)
    (goals : GoalStore) (lexicon : Lexicon) :
    w.Acted (scheduler.tick goals lexicon before).world :=
  .ticks (Progress.acted_foldl goals.activeIds
    (show w.Acted (Progress.mk goals scheduler.plans before []).world from hacted) lexicon)

end Apprentice
