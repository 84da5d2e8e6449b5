import Apprentice.Goal.Tick
import Apprentice.Proofs.Goal.Store

/-!
# Ticks, part by part

What the parts of a tick do to the goals, the plans and the world, which steps a tick tells of, and
what a tick comes to if there is one active goal or none.
-/

namespace Apprentice

variable {lexicon : Lexicon} {g : Goal} {p : Progress} {goal : GoalId} {plan : Plan} {t : Ticked}

/-- The outcomes of the steps that were carried out. -/
def executedOf (events : List TickEvent) : List StepOutcome :=
  events.filterMap fun
    | .executed _ _ outcome => some outcome
    | _ => none

@[simp] theorem executedOf_append (events later : List TickEvent) :
    executedOf (events ++ later) = executedOf events ++ executedOf later :=
  List.filterMap_append

/-! ### The parts of a tick -/

namespace Progress

@[simp] theorem complete_goals : (p.complete goal).goals = (p.goals.complete goal).2 := by
  unfold complete
  dsimp only
  split <;> rfl

@[simp] theorem complete_world : (p.complete goal).world = p.world := by
  unfold complete
  dsimp only
  split <;> rfl

@[simp] theorem complete_executed : executedOf (p.complete goal).events = executedOf p.events := by
  unfold complete
  dsimp only
  split
  · exact (executedOf_append _ _).trans (List.append_nil _)
  · rfl

@[simp] theorem fail_goals {reason : String} :
    (p.fail goal reason).goals = (p.goals.fail goal reason).2 := by
  unfold fail
  dsimp only
  split <;> rfl

@[simp] theorem fail_world {reason : String} : (p.fail goal reason).world = p.world := by
  unfold fail
  dsimp only
  split <;> rfl

@[simp] theorem fail_plans {reason : String} : (p.fail goal reason).plans = p.plans := by
  unfold fail
  dsimp only
  split <;> rfl

@[simp] theorem fail_executed {reason : String} :
    executedOf (p.fail goal reason).events = executedOf p.events := by
  unfold fail
  dsimp only
  split
  · exact (executedOf_append _ _).trans (List.append_nil _)
  · rfl

theorem takeStep_done (hplan : p.plans.get? goal = some plan) (hdone : plan.nextStep? = none) :
    p.takeStep goal lexicon = p := by
  rw [takeStep, hplan]
  dsimp only
  rw [hdone]

theorem takeStep_next {step : Action} (hplan : p.plans.get? goal = some plan)
    (hstep : plan.nextStep? = some step) :
    p.takeStep goal lexicon =
      { p.tell (.executed goal step.kind (step.execute lexicon p.world).1) with
        world := (step.execute lexicon p.world).2
        plans := p.plans.insert plan.advance } := by
  rw [takeStep, hplan]
  dsimp only
  rw [hstep]

theorem continuePlan_left (hplan : p.plans.get? g.id = some plan)
    (hleft : plan.isExhausted = false) (lexicon : Lexicon) : p.continuePlan g lexicon = p := by
  rw [continuePlan]
  dsimp only
  rw [hplan]
  dsimp only
  rw [hleft]
  rfl

theorem continuePlan_repeatable (hplan : p.plans.get? g.id = some plan)
    (hexhausted : plan.isExhausted = true) (hagain : plan.repeatable = true) (lexicon : Lexicon) :
    p.continuePlan g lexicon = p.setPlan plan.rewind := by
  rw [continuePlan]
  dsimp only
  rw [hplan]
  dsimp only
  rw [hexhausted, hagain]
  rfl

/-- Without a step that could be carried out some time, a goal starts over or is given up, as
planning for it says. -/
theorem continuePlan_done
    (hdone : ∀ plan ∈ p.plans.get? g.id, plan.isExhausted = true ∧ plan.repeatable = false)
    (lexicon : Lexicon) :
    p.continuePlan g lexicon =
      match g.plan lexicon p.world with
      | .ok _ => (p.dropPlan g.id).tell (.replanning g.id)
      | .error e =>
        if e.isContradiction then (p.dropPlan g.id).fail g.id e.reason
        else (p.dropPlan g.id).tell (.replanning g.id) := by
  rw [continuePlan]
  dsimp only
  cases hplan : p.plans.get? g.id with
  | none => rfl
  | some plan =>
      obtain ⟨hexhausted, honce⟩ := hdone plan hplan
      dsimp only
      rw [hexhausted, honce]
      rfl

theorem continuePlan_done_cases
    (hdone : ∀ plan ∈ p.plans.get? g.id, plan.isExhausted = true ∧ plan.repeatable = false)
    (lexicon : Lexicon) :
    p.continuePlan g lexicon = (p.dropPlan g.id).tell (.replanning g.id) ∨
      ∃ reason, p.continuePlan g lexicon = (p.dropPlan g.id).fail g.id reason := by
  rw [continuePlan_done hdone]
  split
  next => exact .inl rfl
  next e _ =>
    split
    next => exact .inr ⟨e.reason, rfl⟩
    next => exact .inl rfl

theorem exhausted_of_get? (hplan : p.plans.get? goal = some plan)
    (hexhausted : plan.isExhausted = true) (honce : plan.repeatable = false) :
    ∀ other ∈ p.plans.get? goal, other.isExhausted = true ∧ other.repeatable = false := by
  rintro other hother
  obtain rfl := Option.some.inj (hplan.symm.trans hother)
  exact ⟨hexhausted, honce⟩

/-- What planning for a goal comes to: there is a plan already, one is made, or there can be none
for good or for now. -/
inductive EnsuresPlan (lexicon : Lexicon) (g : Goal) (p : Progress) :
    Except Progress Progress → Prop
  | kept (hcached : p.plans.contains g.id = true) : EnsuresPlan lexicon g p (.ok p)
  | made {plan : Plan} (hmade : g.plan lexicon p.world = .ok plan) :
      EnsuresPlan lexicon g p
        (.ok ((p.tell (.planned g.id plan.strategy plan.kinds)).setPlan plan))
  | failed (hunplanned : p.plans.contains g.id = false) (reason : String) :
      EnsuresPlan lexicon g p (.error (p.fail g.id reason))
  | skipped (hunplanned : p.plans.contains g.id = false) (reason : String) :
      EnsuresPlan lexicon g p (.error (p.tell (.skipped g.id reason)))

theorem ensuresPlan_ensurePlan (lexicon : Lexicon) (g : Goal) (p : Progress) :
    EnsuresPlan lexicon g p (p.ensurePlan g lexicon) := by
  rw [ensurePlan]
  split
  next hcached => exact .kept hcached
  next hunplanned =>
    rw [Bool.not_eq_true] at hunplanned
    split
    next plan hmade => exact .made hmade
    next e _ =>
      split
      next => exact .failed hunplanned e.reason
      next => exact .skipped hunplanned e.reason

end Progress

/-! ### Ticks without other goals -/

/-- Whether a goal is the only active one. -/
structure Goal.Sole (g : Goal) (store : GoalStore) : Prop where
  active : store.active = [g]
  stored : store.get? g.id = some g

theorem Goal.sole_of_reachable {store : GoalStore} (hreachable : store.Reachable)
    (hactive : store.active = [g]) : g.Sole store where
  active := hactive
  stored := hreachable.numbered.get?_of_mem
    (List.mem_filter.mp (hactive ▸ List.mem_singleton_self g : g ∈ store.active)).1

theorem Goal.Sole.mem {store : GoalStore} (hsole : g.Sole store) : g ∈ store.active := by
  rw [hsole.active]
  exact List.mem_cons_self

theorem Goal.Sole.isActive {store : GoalStore} (hsole : g.Sole store) : g.isActive = true :=
  (List.mem_filter.mp hsole.mem).2

theorem Goal.Sole.close {store : GoalStore} (hsole : g.Sole store) {status : GoalStatus}
    (hstatus : status ≠ .active) :
    (store.close g.id status).2.active = [] ∧
      ((store.close g.id status).2.get? g.id).map Goal.status = some status := by
  rw [GoalStore.close_of_active hsole.mem, GoalStore.active_setStatus hstatus, hsole.active,
    GoalStore.get?_setStatus, hsole.stored]
  simp [GoalStore.closed, hsole.isActive]

/-- The next tick, if nothing else happens before it. -/
def Ticked.next (lexicon : Lexicon) (t : Ticked) : Ticked :=
  t.scheduler.tick t.goals lexicon t.world

def Ticked.after (lexicon : Lexicon) : Nat → Ticked → Ticked
  | 0, t => t
  | n + 1, t => (t.scheduler.tick t.goals lexicon t.world).after lexicon n

/-- A tick of the only active goal, which is pursued with the meanings that its words have now. -/
theorem Ticked.next_sole (hsole : g.Sole t.goals) {condition : Action}
    (hcondition : g.condition.withCurrentMeanings lexicon = condition) :
    ∃ last, (⟨t.goals, t.scheduler.plans, t.world, []⟩ : Progress).advanceGoal
        { g with condition := condition } lexicon = last ∧
      t.next lexicon =
        { report := ⟨t.scheduler.ticks + 1, last.events⟩
          scheduler := ⟨last.plans.retain last.goals.isActive, t.scheduler.ticks + 1⟩
          goals := last.goals
          world := last.world.advanceClock } := by
  have hids : t.goals.activeIds = [g.id] := by
    rw [GoalStore.activeIds, hsole.active]
    rfl
  refine ⟨_, rfl, ?_⟩
  rw [next, Scheduler.tick, hids, List.foldl_cons, List.foldl_nil, Progress.advance, hsole.stored,
    ← hcondition]

theorem Ticked.tick_idle (hidle : t.goals.active = []) (lexicon : Lexicon) :
    (t.scheduler.tick t.goals lexicon t.world).goals = t.goals ∧
      (t.scheduler.tick t.goals lexicon t.world).world = t.world.advanceClock := by
  rw [Scheduler.tick, GoalStore.activeIds, hidle]
  exact ⟨rfl, rfl⟩

theorem Ticked.after_idle (hidle : t.goals.active = []) (lexicon : Lexicon) (n : Nat) :
    (t.after lexicon n).goals = t.goals ∧ (t.after lexicon n).world.objects = t.world.objects ∧
      (t.after lexicon n).world.nextId = t.world.nextId := by
  induction n generalizing t with
  | zero => exact ⟨rfl, rfl, rfl⟩
  | succ n ih =>
      obtain ⟨hgoals, hworld⟩ := Ticked.tick_idle hidle lexicon
      obtain ⟨hlastGoals, hlastObjects, hlastId⟩ :=
        ih (t := t.scheduler.tick t.goals lexicon t.world) (by rw [hgoals, hidle])
      rw [Ticked.after, hlastGoals, hlastObjects, hlastId, hgoals, hworld]
      exact ⟨rfl, rfl, rfl⟩

end Apprentice
