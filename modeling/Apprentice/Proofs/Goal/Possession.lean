import Apprentice.Proofs.Action.Acquire
import Apprentice.Proofs.Description.Reads
import Apprentice.Proofs.Goal.FreshName
import Apprentice.Proofs.Goal.Tick

/-!
# Goals to have something

A goal to have something is planned for in one of four ways: there is nothing left to do, an object
is taken, it is lifted out of its container and then taken, or it is made and then taken. One step
is carried out in a tick. Unless the goal is achieved by it, the goal goes on with its plan in the
next tick, or starts over when there are no steps left.
-/

namespace Apprentice

variable {w : World} {lexicon : Lexicon} {d : Description} {g : Goal} {p : Progress}
  {plan : Plan} {t : Ticked} {o : Object}

/-! ### What is held, and what can be had -/

def World.holds (w : World) (d : Description) : Bool :=
  (w.filter d.fits).any fun o => o.owner == .agent

/-- What fits and belongs to nobody. -/
def World.wanted (w : World) (d : Description) : List Object :=
  (w.filter d.fits).filter fun o => o.owner == .world

theorem World.holds_iff :
    w.holds d = true ↔ ∃ o ∈ w.objects, d.fits o = true ∧ o.owner = .agent := by
  simp [holds, World.filter]

theorem World.mem_wanted :
    o ∈ w.wanted d ↔ o ∈ w.objects ∧ d.fits o = true ∧ o.owner = .world := by
  simp [wanted, World.filter, and_comm, and_left_comm]

theorem Progress.checkCondition_possession :
    p.checkCondition (.verifyPossession .agent d) lexicon = (p.world.holds d, p) := by
  change ((Answer.possession .agent d p.world).result.isTruthy, p) = _
  congr 1
  rw [Bool.eq_iff_iff, World.holds_iff]
  simp [Answer.possession, StepResult.isTruthy, idsOf, World.filter, and_comm]

/-! ### Plans -/

theorem mem_of_foldl_nearer (o : Object) (os : List Object) :
    os.foldl (nearer w) o ∈ o :: os := by
  induction os generalizing o with
  | nil => exact List.mem_cons_self
  | cons other os ih =>
      rcases List.mem_cons.mp (ih (nearer w o other)) with hnearer | hlater
      · rw [List.foldl_cons, hnearer, nearer]
        split
        · exact List.mem_cons_of_mem _ List.mem_cons_self
        · exact List.mem_cons_self
      · exact List.mem_cons_of_mem _ (List.mem_cons_of_mem _ hlater)

theorem mem_of_nearest? {os : List Object} (hnearest : nearest? w os = some o) : o ∈ os := by
  cases os with
  | nil => cases hnearest
  | cons first os =>
      cases hnearest
      exact mem_of_foldl_nearer first os

theorem nearest?_eq_none {os : List Object} : nearest? w os = none ↔ os = [] := by
  cases os <;> simp [nearest?]

/-- How it is planned to have something. -/
inductive Approach (g : Goal) (d : Description) (w : World) : Except PlanningError Plan → Prop
  | held (hheld : w.holds d = true) :
      Approach g d w (.ok { goal := g.id, steps := [], strategy := "already held" })
  | openly {o : Object} (hheld : w.holds d = false) (ho : o ∈ w.wanted d)
      (hopen : w.containerOf? o.id = none) :
      Approach g d w
        (.ok { goal := g.id, steps := [.take (.named o.name)], strategy := "take existing" })
  | inside {o container : Object} (hheld : w.holds d = false) (ho : o ∈ w.wanted d)
      (hcontainer : w.containerOf? o.id = some container.id) :
      Approach g d w (.ok
        { goal := g.id
          steps := [.retrieveFromContainer o.name container.name, .take (.named o.name)]
          strategy := "retrieve from " ++ container.name ++ " then take" })
  | making {blueprint : Blueprint} (hheld : w.holds d = false) (hnothing : w.wanted d = [])
      (hsynthesize : d.synthesize (some (freshName d w)) = .ok blueprint) :
      Approach g d w (.ok
        { goal := g.id
          steps := [.create d (some (freshName d w)), .take (.named (freshName d w))]
          strategy := "create then take" })
  | nothing {cause : Unsatisfiable} (hheld : w.holds d = false) :
      Approach g d w (.error ⟨g.id, .unsatisfiable cause⟩)

theorem approach (hsound : w.Sound) (g : Goal) (d : Description) :
    Approach g d w (possessionPlan g d w) := by
  rw [possessionPlan]
  dsimp only
  split
  next hheld => exact .held hheld
  next hnone =>
    have hheld : w.holds d = false := Bool.eq_false_iff.mpr hnone
    split
    next o hnearest =>
      have ho : o ∈ w.wanted d := mem_of_nearest? hnearest
      rw [acquisitionPlan]
      cases hcontainer : w.containerOf? o.id with
      | none => exact .openly hheld ho hcontainer
      | some id =>
          obtain ⟨container, hfind⟩ := World.contains_iff.mp (hsound.forest.live hcontainer).2
          rw [Option.bind_some, hfind]
          obtain rfl := World.id_of_find? hfind
          exact .inside hheld ho hcontainer
    next hnearest =>
      have hnothing : w.wanted d = [] := nearest?_eq_none.mp hnearest
      cases hsynthesize : d.synthesize (some (freshName d w)) with
      | error cause => exact .nothing hheld
      | ok blueprint => exact .making hheld hnothing hsynthesize

theorem Goal.plan_possession {owner : Owner} (hkind : g.kind = .achievePossession)
    (hcondition : g.condition = .verifyPossession owner d) (lexicon : Lexicon) (w : World) :
    g.plan lexicon w = possessionPlan g d w := by
  rw [Goal.plan, hkind, hcondition]

/-! ### One tick -/

/-- What carrying out the next step of a plan gives: its outcome, if there is a step, and the world
after it. -/
def Plan.carryOut (plan : Plan) (lexicon : Lexicon) (w : World) : List StepOutcome × World :=
  match plan.nextStep? with
  | none => ([], w)
  | some step => ([(step.execute lexicon w).1], (step.execute lexicon w).2)

/-- What becomes of a goal after a step of its plan, which led to a world. -/
inductive Pursuit (d : Description) (goal : GoalId) (plan : Plan) (next : World)
    (before : GoalStore) : Progress → Prop
  | achieved {after : Progress} (hheld : next.holds d = true)
      (hgoals : after.goals = (before.complete goal).2) : Pursuit d goal plan next before after
  | goesOn {after : Progress} (hheld : next.holds d = false)
      (hleft : plan.advance.isExhausted = false) (hgoals : after.goals = before)
      (hplan : after.plans.get? goal = some plan.advance) : Pursuit d goal plan next before after
  | startsOver {after : Progress} (hheld : next.holds d = false)
      (hexhausted : plan.advance.isExhausted = true) (hgoals : after.goals = before)
      (hunplanned : after.plans.contains goal = false) : Pursuit d goal plan next before after
  | givenUp {after : Progress} (hheld : next.holds d = false)
      (hexhausted : plan.advance.isExhausted = true) (reason : String)
      (hgoals : after.goals = (before.fail goal reason).2) : Pursuit d goal plan next before after

/-- A step of a plan for a goal, and what comes of it. -/
structure Progress.Stepped (lexicon : Lexicon) (d : Description) (goal : GoalId) (plan : Plan)
    (before after : Progress) : Prop where
  world : after.world = (plan.carryOut lexicon before.world).2
  executed : executedOf after.events =
    executedOf before.events ++ (plan.carryOut lexicon before.world).1
  pursuit : Pursuit d goal plan (plan.carryOut lexicon before.world).2 before.goals after

namespace Progress

theorem stepped_of_plan (hplan : p.plans.get? g.id = some plan) (honce : plan.repeatable = false)
    (hcondition : g.condition = .verifyPossession .agent d) (lexicon : Lexicon) :
    ∃ after, (let (achieved, checked) :=
        (p.takeStep g.id lexicon).checkCondition g.condition lexicon
      if achieved then checked.complete g.id else checked.continuePlan g lexicon) = after ∧
      Stepped lexicon d g.id plan p after := by
  have hstep : ∃ stepped, p.takeStep g.id lexicon = stepped ∧
      stepped.world = (plan.carryOut lexicon p.world).2 ∧
      executedOf stepped.events = executedOf p.events ++ (plan.carryOut lexicon p.world).1 ∧
      stepped.goals = p.goals ∧ stepped.plans.get? g.id = some plan.advance := by
    rw [Plan.carryOut]
    cases hnext : plan.nextStep? with
    | none =>
        rw [takeStep_done hplan hnext, Plan.advance_of_done hnext]
        exact ⟨p, rfl, rfl, (List.append_nil _).symm, rfl, hplan⟩
    | some step =>
        have hgoal : plan.goal = g.id := by simpa using List.find?_some hplan
        rw [takeStep_next hplan hnext]
        exact ⟨_, rfl, rfl, executedOf_append _ _, rfl,
          PlanTable.get?_insert (Plan.advance_goal.trans hgoal)⟩
  obtain ⟨stepped, hstepped, hworld, hexecuted, hgoals, hadvanced⟩ := hstep
  -- what follows the step depends only on what it led to
  suffices hcomes : ∀ after, (if stepped.world.holds d then stepped.complete g.id
      else stepped.continuePlan g lexicon) = after →
        after.world = stepped.world ∧ executedOf after.events = executedOf stepped.events ∧
          Pursuit d g.id plan stepped.world stepped.goals after by
    obtain ⟨hworld', hexecuted', hpursuit⟩ := hcomes _ rfl
    rw [hstepped, hcondition, checkCondition_possession]
    exact ⟨_, rfl, hworld'.trans hworld, hexecuted'.trans hexecuted, hworld ▸ hgoals ▸ hpursuit⟩
  rintro after rfl
  cases hheld : stepped.world.holds d with
  | true =>
      rw [if_pos rfl]
      exact ⟨complete_world, complete_executed, .achieved hheld complete_goals⟩
  | false =>
      rw [if_neg Bool.false_ne_true]
      cases hexhausted : plan.advance.isExhausted with
      | false =>
          rw [continuePlan_left hadvanced hexhausted]
          exact ⟨rfl, rfl, .goesOn hheld hexhausted rfl hadvanced⟩
      | true =>
          have hdone := exhausted_of_get? hadvanced hexhausted
            (Plan.advance_repeatable.trans honce)
          rcases continuePlan_done_cases hdone lexicon with hagain | ⟨reason, hfail⟩
          · rw [hagain]
            refine ⟨rfl, (executedOf_append _ _).trans (List.append_nil _),
              .startsOver hheld hexhausted rfl PlanTable.contains_erase⟩
          · rw [hfail]
            exact ⟨fail_world, fail_executed, .givenUp hheld hexhausted reason fail_goals⟩

theorem stepped_of_cached (hkind : g.kind = .achievePossession)
    (hcondition : g.condition = .verifyPossession .agent d)
    (hplan : p.plans.get? g.id = some plan) (honce : plan.repeatable = false) :
    Stepped lexicon d g.id plan p (p.advanceGoal g lexicon) := by
  obtain ⟨after, hafter, hstepped⟩ := stepped_of_plan hplan honce hcondition lexicon
  have hcontains : p.plans.contains g.id = true := by
    rw [PlanTable.contains, hplan]
    rfl
  have hadvance : p.advanceGoal g lexicon = after := by
    rw [advanceGoal, if_neg (by simp [hkind]), ensurePlan, if_pos hcontains]
    exact hafter
  exact hadvance ▸ hstepped

theorem stepped_of_made (hkind : g.kind = .achievePossession)
    (hcondition : g.condition = .verifyPossession .agent d)
    (hunplanned : p.plans.contains g.id = false)
    (hmade : possessionPlan g d p.world = .ok plan) (hgoal : plan.goal = g.id)
    (honce : plan.repeatable = false) :
    Stepped lexicon d g.id plan p (p.advanceGoal g lexicon) := by
  let planned := (p.tell (.planned g.id plan.strategy plan.kinds)).setPlan plan
  obtain ⟨after, hafter, hstepped⟩ := stepped_of_plan (p := planned)
    (PlanTable.get?_insert hgoal) honce hcondition lexicon
  have hadvance : p.advanceGoal g lexicon = after := by
    rw [advanceGoal, if_neg (by simp [hkind]), ensurePlan, if_neg (by simp [hunplanned]),
      Goal.plan_possession hkind hcondition, hmade]
    exact hafter
  have hquiet : executedOf planned.events = executedOf p.events :=
    (executedOf_append _ _).trans (List.append_nil _)
  exact hadvance ▸ ⟨hstepped.world, hquiet ▸ hstepped.executed, hstepped.pursuit⟩

/-- A goal that no plan can be made for waits, or is given up if it can never be achieved. -/
theorem pursuit_of_error (hkind : g.kind = .achievePossession)
    (hcondition : g.condition = .verifyPossession .agent d)
    (hunplanned : p.plans.contains g.id = false) {e : PlanningError}
    (herror : possessionPlan g d p.world = .error e) (lexicon : Lexicon) :
    (p.advanceGoal g lexicon).world = p.world ∧
      executedOf (p.advanceGoal g lexicon).events = executedOf p.events ∧
      (p.advanceGoal g lexicon).plans = p.plans ∧
      ((p.advanceGoal g lexicon).goals = p.goals ∨
        ∃ reason, (p.advanceGoal g lexicon).goals = (p.goals.fail g.id reason).2) := by
  rw [advanceGoal, if_neg (by simp [hkind]), ensurePlan, if_neg (by simp [hunplanned]),
    Goal.plan_possession hkind hcondition, herror]
  dsimp only
  cases hforever : e.isContradiction with
  | false =>
      rw [if_neg Bool.false_ne_true]
      exact ⟨rfl, (executedOf_append _ _).trans (List.append_nil _), rfl, .inl rfl⟩
  | true =>
      rw [if_pos rfl]
      exact ⟨fail_world, fail_executed, fail_plans, .inr ⟨_, fail_goals⟩⟩

end Progress

/-! ### Ticks -/

/-- How a goal stands after a tick in which it followed a plan to a world. -/
inductive Followed (g : Goal) (d : Description) (plan : Plan) (next : World) (t : Ticked) : Prop
  | achieved (hheld : next.holds d = true) (hidle : t.goals.active = [])
      (hcompleted : (t.goals.get? g.id).map Goal.status = some .completed)
  | goesOn (hheld : next.holds d = false) (hleft : plan.advance.isExhausted = false)
      (hsole : g.Sole t.goals) (hplan : t.scheduler.plans.get? g.id = some plan.advance)
  | startsOver (hheld : next.holds d = false) (hexhausted : plan.advance.isExhausted = true)
      (hsole : g.Sole t.goals) (hunplanned : t.scheduler.plans.contains g.id = false)
  | givenUp (hheld : next.holds d = false) (hexhausted : plan.advance.isExhausted = true)
      (hidle : t.goals.active = [])

/-- The plan that a goal follows in the next tick: the one that it has, or the one that it makes. -/
def Ticked.Follows (t : Ticked) (g : Goal) (d : Description) (plan : Plan) : Prop :=
  t.scheduler.plans.get? g.id = some plan ∨
    (t.scheduler.plans.contains g.id = false ∧ possessionPlan g d t.world = .ok plan ∧
      plan.goal = g.id)

theorem Ticked.next_followed (hsole : g.Sole t.goals) (hkind : g.kind = .achievePossession)
    (hcondition : g.condition.withCurrentMeanings lexicon = .verifyPossession .agent d)
    (hfollows : t.Follows g d plan) (honce : plan.repeatable = false) :
    (t.next lexicon).world = (plan.carryOut lexicon t.world).2.advanceClock ∧
      executedOf (t.next lexicon).report.events = (plan.carryOut lexicon t.world).1 ∧
      Followed g d plan (plan.carryOut lexicon t.world).2 (t.next lexicon) := by
  obtain ⟨last, hlast, hnext⟩ := Ticked.next_sole hsole hcondition
  have hstepped : Progress.Stepped lexicon d g.id plan
      ⟨t.goals, t.scheduler.plans, t.world, []⟩ last := by
    rw [← hlast]
    rcases hfollows with hcached | ⟨hunplanned, hmade, hgoal⟩
    · exact Progress.stepped_of_cached (g := { g with condition := .verifyPossession .agent d })
        hkind rfl hcached honce
    · exact Progress.stepped_of_made (g := { g with condition := .verifyPossession .agent d })
        hkind rfl hunplanned hmade hgoal honce
  rw [hnext]
  refine ⟨by rw [hstepped.world], hstepped.executed, ?_⟩
  cases hstepped.pursuit with
  | achieved hheld hgoals =>
      obtain ⟨hidle, hcompleted⟩ := hsole.close (by simp : GoalStatus.completed ≠ .active)
      rw [hgoals]
      exact .achieved hheld hidle hcompleted
  | goesOn hheld hleft hgoals hplan =>
      refine .goesOn hheld hleft (hgoals ▸ hsole) ?_
      have hkept : last.goals.isActive g.id = true := by
        rw [hgoals, GoalStore.isActive, hsole.stored]
        exact hsole.isActive
      exact (PlanTable.get?_retain hkept).trans hplan
  | startsOver hheld hexhausted hgoals hunplanned =>
      exact .startsOver hheld hexhausted (hgoals ▸ hsole) (PlanTable.contains_retain hunplanned)
  | givenUp hheld hexhausted reason hgoals =>
      obtain ⟨hidle, -⟩ := hsole.close (by simp : GoalStatus.failed reason ≠ .active)
      rw [hgoals]
      exact .givenUp hheld hexhausted hidle

theorem Ticked.next_unplanned (hsole : g.Sole t.goals) (hkind : g.kind = .achievePossession)
    (hcondition : g.condition.withCurrentMeanings lexicon = .verifyPossession .agent d)
    (hunplanned : t.scheduler.plans.contains g.id = false) {e : PlanningError}
    (herror : possessionPlan g d t.world = .error e) :
    (t.next lexicon).world = t.world.advanceClock ∧
      ((t.next lexicon).goals.active = [] ∨ (g.Sole (t.next lexicon).goals ∧
        (t.next lexicon).scheduler.plans.contains g.id = false)) := by
  obtain ⟨last, hlast, hnext⟩ := Ticked.next_sole hsole hcondition
  obtain ⟨hworld, -, hplans, hgoals⟩ := Progress.pursuit_of_error
    (g := { g with condition := .verifyPossession .agent d })
    (p := ⟨t.goals, t.scheduler.plans, t.world, []⟩) hkind rfl hunplanned herror lexicon
  rw [hlast] at hworld hplans hgoals
  rw [hnext]
  refine ⟨by rw [hworld], ?_⟩
  rcases hgoals with hgoals | ⟨reason, hgoals⟩
  · refine .inr ⟨hgoals ▸ hsole, PlanTable.contains_retain ?_⟩
    rw [hplans]
    exact hunplanned
  · obtain ⟨hidle, -⟩ := hsole.close (by simp : GoalStatus.failed reason ≠ .active)
    rw [hgoals]
    exact .inl hidle

end Apprentice
