import Apprentice.Proofs.Goal.Tick

/-!
# What a tick does to one goal

A tick takes up every active goal once. What it tells of the goal says all that happens to it: the
goal is ended exactly when the last event says so, and otherwise the store stays as it was. Only the
plan of the goal itself changes. If there is a plan left, it has a next step, because a plan that is
exhausted is dropped or, if it is to be repeated, started over.
-/

namespace Apprentice

/-! ### What is told of a goal -/

namespace TickEvent

def goal : TickEvent → GoalId
  | planned goal _ _ | skipped goal _ | executed goal _ _ => goal
  | completed goal | failed goal _ | replanning goal => goal

/-- The status in which an event leaves its goal, if it ends the goal. -/
def closing? : TickEvent → Option GoalStatus
  | completed _ => some .completed
  | failed _ reason => some (.failed reason)
  | _ => none

theorem closing?_eq_some {e : TickEvent} {status : GoalStatus} :
    e.closing? = some status ↔ (e = .completed e.goal ∧ status = .completed) ∨
      ∃ reason, e = .failed e.goal reason ∧ status = .failed reason := by
  cases e <;> simp [closing?, goal, eq_comm]

end TickEvent

def closingStatus? (told : List TickEvent) : Option GoalStatus :=
  told.findSome? TickEvent.closing?

@[simp] theorem closingStatus?_append (told later : List TickEvent) :
    closingStatus? (told ++ later) = (closingStatus? told).or (closingStatus? later) :=
  List.findSome?_append

section Accounts

variable (goal : GoalId)

inductive Planned : List TickEvent → Prop
  | before : Planned []
  | now (strategy : String) (kinds : List ActionKind) : Planned [.planned goal strategy kinds]

inductive Executed : List TickEvent → Prop
  | nothing : Executed []
  | step (kind : ActionKind) (outcome : StepOutcome) : Executed [.executed goal kind outcome]

inductive Ended : List TickEvent → Prop
  | goesOn : Ended []
  | completed : Ended [.completed goal]
  | failed (reason : String) : Ended [.failed goal reason]
  | replanning : Ended [.replanning goal]

/-- What a tick may tell of a goal. The word to be understood is known already; there is no plan,
for now or for good; or the goal is pursued. -/
inductive Account : List TickEvent → Prop
  | known : Account [.completed goal]
  | skipped (reason : String) : Account [.skipped goal reason]
  | failed (reason : String) : Account [.failed goal reason]
  | pursued {planned executed ended : List TickEvent} (hplanned : Planned goal planned)
      (hexecuted : Executed goal executed) (hended : Ended goal ended) :
      Account (planned ++ executed ++ ended)

end Accounts

variable {goal : GoalId} {told later : List TickEvent} {e : TickEvent} {status : GoalStatus}

theorem Planned.closingStatus?_eq (hplanned : Planned goal told) :
    closingStatus? told = none := by
  cases hplanned <;> rfl

theorem Executed.closingStatus?_eq (hexecuted : Executed goal told) :
    closingStatus? told = none := by
  cases hexecuted <;> rfl

theorem Account.goal_of_mem (haccount : Account goal told) (he : e ∈ told) : e.goal = goal := by
  cases haccount with
  | pursued hplanned hexecuted hended =>
      rcases List.mem_append.mp he with hbefore | hafter
      · rcases List.mem_append.mp hbefore with hfirst | hstep
        · cases hplanned with
          | before => cases hfirst
          | now => rw [List.mem_singleton.mp hfirst, TickEvent.goal]
        · cases hexecuted with
          | nothing => cases hstep
          | step => rw [List.mem_singleton.mp hstep, TickEvent.goal]
      · cases hended with
        | goesOn => cases hafter
        | _ => rw [List.mem_singleton.mp hafter, TickEvent.goal]
  | _ => rw [List.mem_singleton.mp he, TickEvent.goal]

theorem Account.closingStatus?_of_mem (haccount : Account goal told) (he : e ∈ told)
    (hcloses : e.closing? = some status) : closingStatus? told = some status := by
  cases haccount with
  | @pursued planned executed ended hplanned hexecuted hended =>
      have hopen : closingStatus? (planned ++ executed) = none := by
        rw [closingStatus?_append, hplanned.closingStatus?_eq, hexecuted.closingStatus?_eq,
          Option.none_or]
      rw [closingStatus?_append, hopen, Option.none_or]
      rcases List.mem_append.mp he with hbefore | hafter
      · rw [List.findSome?_eq_none_iff.mp hopen e hbefore] at hcloses
        cases hcloses
      · cases hended with
        | goesOn => cases hafter
        | _ =>
            rw [List.mem_singleton.mp hafter] at hcloses
            simpa [closingStatus?] using hcloses
  | _ =>
      rw [List.mem_singleton.mp he] at hcloses
      simpa [closingStatus?] using hcloses

/-! ### The parts of an advance -/

/-- The store after a tick has dealt with a goal: the goal is ended, or not. -/
def GoalStore.settle (store : GoalStore) (id : GoalId) : Option GoalStatus → GoalStore
  | none => store
  | some status => (store.close id status).2

variable {lexicon : Lexicon} {g : Goal} {p q r : Progress} {plan : Plan}

/-- A plan that can be started over when it is exhausted, if it is to be. -/
def Plan.Rewindable (plan : Plan) : Prop :=
  plan.repeatable = true → plan.steps.length = 1

/-- A plan that something is left of. -/
structure Plan.Ready (plan : Plan) : Prop where
  next : plan.cursor < plan.steps.length
  rewindable : plan.Rewindable

structure Plan.MadeFor (plan : Plan) (goal : GoalId) : Prop where
  goal : plan.goal = goal
  rewindable : plan.Rewindable

theorem Plan.madeFor_of_once (hgoal : plan.goal = goal) (honce : plan.repeatable = false) :
    plan.MadeFor goal :=
  ⟨hgoal, fun hagain => absurd (honce.symm.trans hagain) Bool.false_ne_true⟩

theorem madeFor_understandingPlan (g : Goal) (lexicon : Lexicon) :
    (understandingPlan g lexicon).MadeFor g.id := by
  rw [understandingPlan]
  split
  · exact Plan.madeFor_of_once rfl rfl
  · exact ⟨rfl, fun _ => rfl⟩

theorem madeFor_of_possessionPlan {d : Description} {w : World}
    (hok : possessionPlan g d w = .ok plan) : plan.MadeFor g.id := by
  rw [possessionPlan] at hok
  dsimp only at hok
  split at hok
  next =>
    obtain rfl := Except.ok.inj hok
    exact Plan.madeFor_of_once rfl rfl
  next =>
    split at hok
    next o _ =>
      obtain rfl := Except.ok.inj hok
      rw [acquisitionPlan]
      split <;> exact Plan.madeFor_of_once rfl rfl
    next =>
      split at hok
      next => cases hok
      next =>
        obtain rfl := Except.ok.inj hok
        exact Plan.madeFor_of_once rfl rfl

theorem madeFor_of_existencePlan {d : Description} {w : World}
    (hok : existencePlan g d w = .ok plan) : plan.MadeFor g.id := by
  rw [existencePlan] at hok
  split at hok
  next =>
    obtain rfl := Except.ok.inj hok
    exact Plan.madeFor_of_once rfl rfl
  next =>
    split at hok
    next => cases hok
    next =>
      obtain rfl := Except.ok.inj hok
      exact Plan.madeFor_of_once rfl rfl

theorem Goal.madeFor_of_plan {w : World} (hok : g.plan lexicon w = .ok plan) :
    plan.MadeFor g.id := by
  rw [Goal.plan] at hok
  split at hok
  next => exact Except.ok.inj hok ▸ madeFor_understandingPlan g lexicon
  next => exact madeFor_of_possessionPlan hok
  next => exact madeFor_of_existencePlan hok
  next =>
    obtain rfl := Except.ok.inj hok
    exact Plan.madeFor_of_once rfl rfl
  next => cases hok

namespace Progress

/-- What happened to a goal within an advance, as long as the goal is not ended: the store is as it
was, and of the plans only its own may have changed. -/
structure Underway (goal : GoalId) (p q : Progress) (told : List TickEvent) : Prop where
  events : q.events = p.events ++ told
  goals : q.goals = p.goals
  others : q.plans.erase goal = p.plans.erase goal
  keyed : p.plans.Keyed → q.plans.Keyed

theorem underway_refl (goal : GoalId) (p : Progress) : Underway goal p p [] where
  events := (List.append_nil _).symm
  goals := rfl
  others := rfl
  keyed := id

theorem Underway.trans (hfirst : Underway goal p q told) (hthen : Underway goal q r later) :
    Underway goal p r (told ++ later) where
  events := by rw [hthen.events, hfirst.events, List.append_assoc]
  goals := hthen.goals.trans hfirst.goals
  others := hthen.others.trans hfirst.others
  keyed := hthen.keyed ∘ hfirst.keyed

theorem underway_tell (goal : GoalId) (p : Progress) (e : TickEvent) :
    Underway goal p (p.tell e) [e] where
  events := rfl
  goals := rfl
  others := rfl
  keyed := id

theorem underway_setPlan (hgoal : plan.goal = goal) (p : Progress) :
    Underway goal p (p.setPlan plan) [] where
  events := (List.append_nil _).symm
  goals := rfl
  others := PlanTable.erase_insert hgoal
  keyed := fun hkeyed => hkeyed.insert plan

theorem underway_dropPlan (goal : GoalId) (p : Progress) :
    Underway goal p (p.dropPlan goal) [] where
  events := (List.append_nil _).symm
  goals := rfl
  others := PlanTable.erase_erase
  keyed := fun hkeyed => hkeyed.retain _

/-- After planning there is a plan, unless there can be none for now or for good. -/
theorem ensurePlan_cases (p : Progress) (g : Goal) (lexicon : Lexicon) :
    (∃ planned told plan, p.ensurePlan g lexicon = .ok planned ∧ Underway g.id p planned told ∧
      Planned g.id told ∧ planned.plans.get? g.id = some plan ∧
      (p.plans.get? g.id = some plan ∨ plan.Rewindable)) ∨
    (p.plans.contains g.id = false ∧ ∃ reason,
      p.ensurePlan g lexicon = .error (p.fail g.id reason) ∨
      p.ensurePlan g lexicon = .error (p.tell (.skipped g.id reason))) := by
  generalize hensured : p.ensurePlan g lexicon = ensured
  cases hensured ▸ ensuresPlan_ensurePlan lexicon g p with
  | kept hcached =>
      obtain ⟨plan, hplan⟩ := Option.isSome_iff_exists.mp hcached
      exact .inl ⟨p, [], plan, rfl, underway_refl _ p, .before, hplan, .inl hplan⟩
  | @made plan hmade =>
      obtain ⟨hgoal, hrewindable⟩ := Goal.madeFor_of_plan hmade
      exact .inl ⟨_, _, plan, rfl, (underway_tell _ p _).trans (underway_setPlan hgoal _),
        .now plan.strategy plan.kinds, PlanTable.get?_insert hgoal, .inr hrewindable⟩
  | failed hunplanned reason => exact .inr ⟨hunplanned, reason, .inl rfl⟩
  | skipped hunplanned reason => exact .inr ⟨hunplanned, reason, .inr rfl⟩

theorem takeStep_cases (hplan : p.plans.get? goal = some plan) (lexicon : Lexicon) :
    ∃ told, Underway goal p (p.takeStep goal lexicon) told ∧ Executed goal told ∧
      (p.takeStep goal lexicon).plans.get? goal = some plan.advance := by
  cases hnext : plan.nextStep? with
  | none =>
      rw [takeStep_done hplan hnext, Plan.advance_of_done hnext]
      exact ⟨[], underway_refl goal p, .nothing, hplan⟩
  | some step =>
      have hgoal : plan.advance.goal = goal :=
        Plan.advance_goal.trans (PlanTable.goal_of_get? hplan)
      rw [takeStep_next hplan hnext]
      exact ⟨[.executed goal step.kind (step.execute lexicon p.world).1],
        ⟨rfl, rfl, PlanTable.erase_insert hgoal, fun hkeyed => hkeyed.insert plan.advance⟩,
        .step step.kind _, PlanTable.get?_insert hgoal⟩

theorem underway_checkCondition (goal : GoalId) (p : Progress) (condition : Action)
    (lexicon : Lexicon) : Underway goal p (p.checkCondition condition lexicon).2 [] ∧
      (p.checkCondition condition lexicon).2.plans = p.plans := by
  rw [checkCondition]
  split
  · exact ⟨underway_refl goal p, rfl⟩
  · exact ⟨⟨(List.append_nil _).symm, rfl, rfl, id⟩, rfl⟩

/-! ### The whole advance -/

/-- What the advance of an active goal comes to. What is told of the goal says how it is left, and a
plan that is left to it has a next step. -/
structure Advanced (goal : GoalId) (p next : Progress) (told : List TickEvent) : Prop where
  account : Account goal told
  events : next.events = p.events ++ told
  goals : next.goals = p.goals.settle goal (closingStatus? told)
  others : next.plans.erase goal = p.plans.erase goal
  keyed : p.plans.Keyed → next.plans.Keyed
  ready : (∀ plan, p.plans.get? goal = some plan → plan.Rewindable) →
    ∀ plan, next.plans.get? goal = some plan → plan.Ready

theorem Underway.advanced (hunderway : Underway goal p q told) (haccount : Account goal told)
    (hopen : closingStatus? told = none)
    (hready : (∀ plan, p.plans.get? goal = some plan → plan.Rewindable) →
      ∀ plan, q.plans.get? goal = some plan → plan.Ready) : Advanced goal p q told where
  account := haccount
  events := hunderway.events
  goals := by rw [hunderway.goals, hopen, GoalStore.settle]
  others := hunderway.others
  keyed := hunderway.keyed
  ready := hready

theorem Underway.ended (hunderway : Underway goal p q told) (hopen : closingStatus? told = none)
    (hcloses : e.closing? = some status) (haccount : Account goal (told ++ [e]))
    (hevents : r.events = q.events ++ [e]) (hgoals : r.goals = (q.goals.close goal status).2)
    (hothers : r.plans.erase goal = q.plans.erase goal) (hkeyed : q.plans.Keyed → r.plans.Keyed)
    (hdropped : r.plans.contains goal = false) : Advanced goal p r (told ++ [e]) where
  account := haccount
  events := by rw [hevents, hunderway.events, List.append_assoc]
  goals := by
    have hclosing : closingStatus? (told ++ [e]) = some status := by
      rw [closingStatus?_append, hopen, Option.none_or]
      simp [closingStatus?, hcloses]
    rw [hgoals, hunderway.goals, hclosing, GoalStore.settle]
  others := hothers.trans hunderway.others
  keyed := hkeyed ∘ hunderway.keyed
  ready := fun _ plan hplan => by
    rw [PlanTable.get?_of_not_contains hdropped] at hplan
    cases hplan

theorem complete_of_active (hactive : goal ∈ p.goals.activeIds) :
    p.complete goal =
      { (p.dropPlan goal).tell (.completed goal) with
        goals := (p.goals.close goal .completed).2 } := by
  obtain ⟨g, hg, rfl⟩ := List.mem_map.mp hactive
  rw [complete, GoalStore.complete, GoalStore.close_of_active hg]
  rfl

theorem fail_of_active (hactive : goal ∈ p.goals.activeIds) (reason : String) :
    p.fail goal reason =
      { p.tell (.failed goal reason) with goals := (p.goals.close goal (.failed reason)).2 } := by
  obtain ⟨g, hg, rfl⟩ := List.mem_map.mp hactive
  rw [fail, GoalStore.fail, GoalStore.close_of_active hg]
  rfl

theorem Underway.complete (hunderway : Underway goal p q told) (hopen : closingStatus? told = none)
    (haccount : Account goal (told ++ [.completed goal])) (hactive : goal ∈ p.goals.activeIds) :
    Advanced goal p (q.complete goal) (told ++ [.completed goal]) := by
  rw [complete_of_active (hunderway.goals ▸ hactive)]
  exact hunderway.ended hopen rfl haccount rfl rfl PlanTable.erase_erase
    (fun hkeyed => hkeyed.retain _) PlanTable.contains_erase

theorem Underway.fail (hunderway : Underway goal p q told) (hopen : closingStatus? told = none)
    {reason : String} (haccount : Account goal (told ++ [.failed goal reason]))
    (hactive : goal ∈ p.goals.activeIds) (hdropped : q.plans.contains goal = false) :
    Advanced goal p (q.fail goal reason) (told ++ [.failed goal reason]) := by
  rw [fail_of_active (hunderway.goals ▸ hactive)]
  exact hunderway.ended hopen rfl haccount rfl rfl rfl id hdropped

/-- What follows the step of a goal that is not achieved. Either a step is left, or the plan starts
over, or it is dropped. -/
theorem Underway.continuePlan {planned executed : List TickEvent}
    (hunderway : Underway g.id p q (planned ++ executed)) (hplanned : Planned g.id planned)
    (hexecuted : Executed g.id executed) (hactive : g.id ∈ p.goals.activeIds)
    (hplan : q.plans.get? g.id = some plan)
    (hrewindable : (∀ plan, p.plans.get? g.id = some plan → plan.Rewindable) → plan.Rewindable)
    (lexicon : Lexicon) : ∃ told, Advanced g.id p (q.continuePlan g lexicon) told := by
  have hopen : closingStatus? (planned ++ executed) = none := by
    rw [closingStatus?_append, hplanned.closingStatus?_eq, hexecuted.closingStatus?_eq,
      Option.none_or]
  have hgoal : plan.goal = g.id := PlanTable.goal_of_get? hplan
  cases hexhausted : plan.isExhausted with
  | false =>
      have hnext : plan.cursor < plan.steps.length := by
        simpa [Plan.isExhausted] using hexhausted
      have haccount : Account g.id (planned ++ executed) := by
        simpa using Account.pursued hplanned hexecuted .goesOn
      rw [continuePlan_left hplan hexhausted]
      refine ⟨_, hunderway.advanced haccount hopen fun hbefore other hother => ?_⟩
      obtain rfl := Option.some.inj (hplan.symm.trans hother)
      exact ⟨hnext, hrewindable hbefore⟩
  | true =>
      cases hagain : plan.repeatable with
      | true =>
          have hrewound : plan.rewind.goal = g.id := hgoal
          have hstarts : Underway g.id p (q.setPlan plan.rewind) (planned ++ executed) := by
            simpa using hunderway.trans (underway_setPlan hrewound q)
          have haccount : Account g.id (planned ++ executed) := by
            simpa using Account.pursued hplanned hexecuted .goesOn
          rw [continuePlan_repeatable hplan hexhausted hagain]
          refine ⟨_, hstarts.advanced haccount hopen fun hbefore other hother => ?_⟩
          obtain rfl := Option.some.inj ((PlanTable.get?_insert hrewound).symm.trans hother)
          have hsingle : plan.steps.length = 1 := hrewindable hbefore hagain
          exact ⟨by rw [Plan.rewind, hsingle]; exact Nat.one_pos, fun _ => hsingle⟩
      | false =>
          have hdropped : Underway g.id p (q.dropPlan g.id) (planned ++ executed) := by
            simpa using hunderway.trans (underway_dropPlan g.id q)
          rcases continuePlan_done_cases (exhausted_of_get? hplan hexhausted hagain) lexicon with
            hreplan | ⟨reason, hfail⟩
          · rw [hreplan]
            refine ⟨_, (hdropped.trans (underway_tell g.id _ _)).advanced
              (.pursued hplanned hexecuted .replanning) ?_ fun _ other hother => ?_⟩
            · rw [closingStatus?_append, hopen]
              rfl
            · have hnone : (q.plans.erase g.id).get? g.id = none :=
                PlanTable.get?_of_not_contains PlanTable.contains_erase
              cases hnone.symm.trans hother
          · rw [hfail]
            exact ⟨_, hdropped.fail hopen (.pursued hplanned hexecuted (.failed reason)) hactive
              PlanTable.contains_erase⟩

/-- An active goal is brought one step closer, and what is told of it says all about it. -/
theorem advanced_advanceGoal (hactive : g.id ∈ p.goals.activeIds) (lexicon : Lexicon) :
    ∃ told, Advanced g.id p (p.advanceGoal g lexicon) told := by
  rw [advanceGoal]
  split
  next => exact ⟨_, (underway_refl g.id p).complete rfl .known hactive⟩
  next =>
    rcases ensurePlan_cases p g lexicon with
      ⟨planned, made, plan, hok, hunderway, hplanned, hplan, hsource⟩ |
      ⟨hunplanned, reason, hfail | hskip⟩
    · obtain ⟨done, hstep, hexecuted, hadvanced⟩ := takeStep_cases hplan lexicon
      obtain ⟨hcheck, hplans⟩ := underway_checkCondition g.id (planned.takeStep g.id lexicon)
        g.condition lexicon
      have hchecked := (hunderway.trans hstep).trans hcheck
      rw [List.append_nil] at hchecked
      rw [hok]
      dsimp only
      split
      next =>
        refine ⟨_, hchecked.complete ?_ (.pursued hplanned hexecuted .completed) hactive⟩
        rw [closingStatus?_append, hplanned.closingStatus?_eq, hexecuted.closingStatus?_eq,
          Option.none_or]
      next =>
        refine hchecked.continuePlan hplanned hexecuted hactive (hplans ▸ hadvanced) ?_ lexicon
        intro hbefore hagain
        rw [Plan.advance_steps]
        rw [Plan.advance_repeatable] at hagain
        rcases hsource with hcached | hmade
        · exact hbefore plan hcached hagain
        · exact hmade hagain
    · rw [hfail]
      exact ⟨_, (underway_refl g.id p).fail rfl (.failed reason) hactive hunplanned⟩
    · rw [hskip]
      refine ⟨_, (underway_tell g.id p _).advanced (.skipped reason) rfl fun _ other hother => ?_⟩
      cases (PlanTable.get?_of_not_contains hunplanned).symm.trans hother

end Progress

end Apprentice
