import Apprentice.Proofs.Description.Candidate
import Apprentice.Proofs.Goal.Tick

/-!
# Goals to make something exist

A goal to have something exist is pursued by making it, once. The plan has one step at most; if the
step makes an object that fits, the goal is achieved in the same tick and never taken up again, and
if the step misses, the world is as before and the goal waits. What is made fits if the terms cannot
tell it from the candidate that they were tried on.
-/

namespace Apprentice

variable {w : World} {lexicon : Lexicon} {d : Description} {g : Goal} {p : Progress}
  {goal : GoalId} {plan : Plan}

/-! ### The parts of a tick -/

namespace Progress

theorem checkCondition_existence :
    p.checkCondition (.verifyExistence d) lexicon = (!(p.world.filter d.fits).isEmpty, p) := by
  change ((Answer.existence d p.world).result.isTruthy, p) = _
  simp [Answer.existence, StepResult.isTruthy, idsOf]

theorem continuePlan_exhausted {again : Plan} (hplan : p.plans.get? g.id = some plan)
    (hexhausted : plan.isExhausted = true) (honce : plan.repeatable = false)
    (hagain : g.plan lexicon p.world = .ok again) :
    p.continuePlan g lexicon = (p.dropPlan g.id).tell (.replanning g.id) := by
  rw [continuePlan_done (exhausted_of_get? hplan hexhausted honce), hagain]

end Progress

theorem Goal.plan_existence (hkind : g.kind = .achieveExistence)
    (hcondition : g.condition = .verifyExistence d) (lexicon : Lexicon) (w : World) :
    g.plan lexicon w = existencePlan g d w := by
  rw [Goal.plan, hkind, hcondition]

/-! ### One tick -/

/-- What may become of an existence goal in a tick: it waits, it is given up, it is found to be
achieved, or the thing is made and the goal thereby achieved. -/
inductive Pursued (lexicon : Lexicon) (d : Description) (goal : GoalId) (before : Progress) :
    Progress → Prop
  | waits {after : Progress} (hworld : after.world = before.world)
      (hgoals : after.goals = before.goals) (hplans : after.plans.contains goal = false) :
      Pursued lexicon d goal before after
  | gaveUp {after : Progress} (reason : String) (hworld : after.world = before.world)
      (hgoals : after.goals = (before.goals.fail goal reason).2) :
      Pursued lexicon d goal before after
  | holds {after : Progress} (hworld : after.world = before.world)
      (hgoals : after.goals = (before.goals.complete goal).2) :
      Pursued lexicon d goal before after
  | makes {after : Progress} (id : ObjectId)
      (hcreated : ((Action.create d none).execute lexicon before.world).1.result = .created id)
      (hworld : after.world = ((Action.create d none).execute lexicon before.world).2)
      (hgoals : after.goals = (before.goals.complete goal).2) :
      Pursued lexicon d goal before after

theorem Progress.pursued_exhausted (hplan : p.plans.get? g.id = some plan)
    (hexhausted : plan.isExhausted = true) (honce : plan.repeatable = false) {again : Plan}
    (hagain : g.plan lexicon p.world = .ok again) {before : Progress}
    (hworld : p.world = before.world) (hgoals : p.goals = before.goals) :
    Pursued lexicon d g.id before (p.continuePlan g lexicon) := by
  rw [continuePlan_exhausted hplan hexhausted honce hagain]
  exact .waits hworld hgoals PlanTable.contains_erase

theorem Progress.pursued_create (hplan : p.plans.get? g.id =
      some { goal := g.id, steps := [.create d none], strategy := "create" })
    (hcondition : g.condition = .verifyExistence d) (hsound : p.world.Sound)
    (hmade : d.MadeAsTried none p.world) (hnone : p.world.filter d.fits = [])
    {again : Plan} (hagain : g.plan lexicon p.world = .ok again) {before : Progress}
    (hworld : p.world = before.world) (hgoals : p.goals = before.goals) :
    Pursued lexicon d g.id before
      (let (achieved, checked) := (p.takeStep g.id lexicon).checkCondition g.condition lexicon
      if achieved then checked.complete g.id else checked.continuePlan g lexicon) := by
  rw [takeStep_next hplan rfl, hcondition, checkCondition_existence]
  dsimp only
  rcases Action.execute_create lexicon d none p.world with
    ⟨blueprint, id, next, -, -, hexecute⟩ | ⟨cause, hexecute⟩
  · have hcreated : ((Action.create d none).execute lexicon p.world).1.result = .created id := by
      rw [hexecute]
    obtain ⟨o, -, hobjects, -, hfits⟩ := Action.fits_of_created hsound hmade hcreated
    have hfound : ((Action.create d none).execute lexicon p.world).2.filter d.fits ≠ [] := by
      intro hempty
      have hmem : o ∈ ((Action.create d none).execute lexicon p.world).2.filter d.fits :=
        List.mem_filter.mpr ⟨by rw [hobjects]; simp, hfits⟩
      rw [hempty] at hmem
      cases hmem
    rw [if_pos (by simpa using hfound)]
    refine .makes id (hworld ▸ hcreated) ?_ ?_
    · rw [complete_world, hworld]
    · rw [complete_goals, ← hgoals]
      rfl
  · rw [hexecute]
    dsimp only
    rw [if_neg (by simp [hnone])]
    apply pursued_exhausted
    · exact PlanTable.get?_insert rfl
    · rfl
    · rfl
    · exact hagain
    · exact hworld
    · exact hgoals

theorem Progress.pursued_advanceGoal (hkind : g.kind = .achieveExistence)
    (hcondition : g.condition = .verifyExistence d) (hunplanned : p.plans.contains g.id = false)
    (hsound : p.world.Sound) (hmade : d.MadeAsTried none p.world) :
    Pursued lexicon d g.id p (p.advanceGoal g lexicon) := by
  have hplan := Goal.plan_existence hkind hcondition lexicon p.world
  rw [advanceGoal, if_neg (by simp [hkind]), ensurePlan, if_neg (by simp [hunplanned]), hplan]
  cases hfitting : p.world.filter d.fits with
  | cons o os =>
      have hexisting : existencePlan g d p.world =
          .ok { goal := g.id, steps := [], strategy := "already exists" } := by
        rw [existencePlan, hfitting]
        rfl
      rw [hexisting]
      dsimp only
      rw [takeStep_done (PlanTable.get?_insert rfl) rfl, hcondition, checkCondition_existence]
      dsimp only
      rw [if_pos (by simp [setPlan, tell, hfitting])]
      exact .holds complete_world complete_goals
  | nil =>
      cases hsynthesize : d.synthesize none with
      | error cause =>
          have hunplannable : existencePlan g d p.world =
              .error ⟨g.id, .unsatisfiable cause⟩ := by
            rw [existencePlan, hfitting, hsynthesize]
            rfl
          rw [hunplannable]
          dsimp only
          by_cases hforever : (PlanningError.mk g.id (.unsatisfiable cause)).isContradiction = true
          · rw [if_pos hforever]
            exact .gaveUp _ fail_world fail_goals
          · rw [if_neg hforever]
            exact .waits rfl rfl hunplanned
      | ok blueprint =>
          have hplannable : existencePlan g d p.world =
              .ok { goal := g.id, steps := [.create d none], strategy := "create" } := by
            rw [existencePlan, hfitting, hsynthesize]
            rfl
          rw [hplannable]
          exact pursued_create (p := (p.tell (.planned g.id "create" [.create])).setPlan
            { goal := g.id, steps := [.create d none], strategy := "create" })
            (PlanTable.get?_insert rfl) hcondition hsound hmade hfitting
            (hplan.trans hplannable) rfl rfl

/-! ### Any number of ticks -/

/-- Whether a goal is the only active one, asks for something that fits a description, and has no
plan yet. -/
structure Goal.Alone (g : Goal) (lexicon : Lexicon) (d : Description) (t : Ticked) : Prop where
  active : t.goals.active = [g]
  stored : t.goals.get? g.id = some g
  kind : g.kind = .achieveExistence
  condition : g.condition.withCurrentMeanings lexicon = .verifyExistence d
  unplanned : t.scheduler.plans.contains g.id = false

/-- Whether at most one object has been made since the world was as given, and only one that fits,
by which the goal is achieved. -/
def Ticked.MadeOnce (t : Ticked) (d : Description) (goal : GoalId) (w : World) : Prop :=
  (t.world.objects = w.objects ∧ t.world.nextId = w.nextId) ∨
    ∃ o, t.world.objects = w.objects ++ [o] ∧ t.world.nextId = w.nextId + 1 ∧ d.fits o = true ∧
      (t.goals.get? goal).map Goal.status = some .completed

variable {t : Ticked}

theorem Goal.Alone.sole (halone : g.Alone lexicon d t) : g.Sole t.goals :=
  ⟨halone.active, halone.stored⟩

/-- What a tick makes of a goal that is the only active one. -/
theorem Goal.Alone.tick (halone : g.Alone lexicon d t) (hsound : t.world.Sound)
    (hmade : d.MadeAsTried none t.world) :
    (g.Alone lexicon d (t.scheduler.tick t.goals lexicon t.world) ∧
      (t.scheduler.tick t.goals lexicon t.world).world = t.world.advanceClock) ∨
    ((t.scheduler.tick t.goals lexicon t.world).goals.active = [] ∧
      (t.scheduler.tick t.goals lexicon t.world).MadeOnce d g.id t.world) := by
  obtain ⟨last, hlast, hnext⟩ := Ticked.next_sole halone.sole halone.condition
  have hpursued : Pursued lexicon d g.id ⟨t.goals, t.scheduler.plans, t.world, []⟩ last := by
    rw [← hlast]
    exact Progress.pursued_advanceGoal (g := { g with condition := .verifyExistence d }) halone.kind
      rfl halone.unplanned hsound hmade
  rw [Ticked.next] at hnext
  rw [hnext]
  cases hpursued with
  | waits hworld hgoals hplans =>
      refine .inl ⟨⟨?_, ?_, halone.kind, halone.condition, ?_⟩, ?_⟩
      · rw [hgoals]
        exact halone.active
      · rw [hgoals]
        exact halone.stored
      · exact PlanTable.contains_retain hplans
      · rw [hworld]
  | gaveUp reason hworld hgoals =>
      refine .inr ⟨?_, .inl ?_⟩
      · rw [hgoals]
        exact (halone.sole.close (by simp)).1
      · rw [hworld]
        exact ⟨rfl, rfl⟩
  | holds hworld hgoals =>
      refine .inr ⟨?_, .inl ?_⟩
      · rw [hgoals]
        exact (halone.sole.close (by simp)).1
      · rw [hworld]
        exact ⟨rfl, rfl⟩
  | makes id hcreated hworld hgoals =>
      obtain ⟨o, -, hobjects, hnextId, hfits⟩ := Action.fits_of_created hsound hmade hcreated
      obtain ⟨hnone, hcompleted⟩ := halone.sole.close (by simp : GoalStatus.completed ≠ .active)
      refine .inr ⟨?_, .inr ⟨o, ?_, ?_, hfits, ?_⟩⟩
      · rw [hgoals]
        exact hnone
      · rw [hworld]
        exact hobjects
      · rw [hworld]
        exact hnextId
      · rw [hgoals]
        exact hcompleted

/-- However many ticks pass, a goal that is the only active one makes at most one object. -/
theorem Goal.Alone.after (halone : g.Alone lexicon d t) (hsound : t.world.Sound)
    (hmade : d.MadeAsTried none t.world) (n : Nat) :
    (t.after lexicon n).MadeOnce d g.id t.world := by
  induction n generalizing t with
  | zero => exact .inl ⟨rfl, rfl⟩
  | succ n ih =>
      rw [Ticked.after]
      rcases halone.tick hsound hmade with ⟨halone', hworld⟩ | ⟨hidle, honce⟩
      · -- the clock is all that has changed, so the goal starts over
        have hmade' : d.MadeAsTried none t.world.advanceClock := by
          intro blueprint cell hok hfree
          rw [World.freeCell?_advanceClock] at hfree
          exact hmade blueprint cell hok hfree
        have hlater := ih halone' (hworld ▸ hsound.advanceClock) (hworld ▸ hmade')
        rw [hworld] at hlater
        exact hlater
      · obtain ⟨hgoals, hobjects, hnextId⟩ := Ticked.after_idle hidle lexicon n
        rw [Ticked.MadeOnce, hgoals, hobjects, hnextId]
        exact honce

/-- What is created fits its description, and an existence goal creates at most one object, if the
terms cannot tell what is made from the candidate. They can only if they read the cell, and the
first free cell is not the candidate's, or the name, and no name is given or asked for. In both
cases there are descriptions that no created object fits. -/
theorem Action.created_fits {w : World} (hreachable : w.Reachable) (lexicon : Lexicon) :
    (∀ (d : Description) (name : Option String) (id : ObjectId), d.MadeAsTried name w →
      ((create d name).execute lexicon w).1.result = .created id →
      ∃ o, ((create d name).execute lexicon w).2.find? id = some o ∧ d.fits o = true) ∧
    (∀ (d : Description) (g : Goal) (t : Ticked), d.MadeAsTried none w → t.world = w →
      g.Alone lexicon d t → ∀ n, (t.after lexicon n).MadeOnce d g.id w) ∧
    ∀ cell, w.freeCell? = some cell →
      (cell ≠ ⟨0, 0⟩ → ∃ o,
        ((create .corner none).execute lexicon w).1.result = .created o.id ∧
        ((create .corner none).execute lexicon w).2.find? o.id = some o ∧
        Description.corner.fits o = false) ∧
      ∃ o, ((create .initialC none).execute lexicon w).1.result = .created o.id ∧
        ((create .initialC none).execute lexicon w).2.find? o.id = some o ∧
        Description.initialC.fits o = false := by
  have hsound := hreachable.sound
  refine ⟨fun d name id hmade hcreated => ?_, fun d g t hmade hworld halone n => ?_,
    fun cell hfree => ⟨fun hcell => ?_, ?_⟩⟩
  · obtain ⟨o, hfind, -, -, hfits⟩ := fits_of_created hsound hmade hcreated
    exact ⟨o, hfind, hfits⟩
  · subst hworld
    exact halone.after hsound hmade n
  · have hsynthesize : Description.corner.synthesize none = .ok { size := some 5 } := by
      decide +kernel
    obtain ⟨hcreated, hfind⟩ := created_of_free hsound hsynthesize rfl hfree lexicon
    exact ⟨w.newObject { size := some 5 } cell, hcreated, hfind,
      Description.fits_corner rfl hcell⟩
  · have hsynthesize : Description.initialC.synthesize none = .ok { size := some 5 } := by
      decide +kernel
    obtain ⟨hcreated, hfind⟩ := created_of_free hsound hsynthesize rfl hfree lexicon
    exact ⟨w.newObject { size := some 5 } cell, hcreated, hfind,
      Description.fits_initialC (w.head?_fallbackName w.nextId)⟩

/-- A red thing made beside another object is red, and is made once. -/
theorem Action.created_fits_red :
    let red : Term := ⟨"red", false,
      ⟨.unary, .binary .eq (.attr .obj .color) (.literal (.str "red")), "obj.color == 'red'"⟩⟩
    let d : Description := ⟨[[red]]⟩
    let g : Goal := ⟨1, "something red", .achieveExistence, none, .verifyExistence d, .active, 0⟩
    ∃ w : World, w.Reachable ∧ w.freeCell? = some ⟨1, 0⟩ ∧ d.MadeAsTried none w ∧
      ((create d none).execute .empty w).1.result = .created 2 ∧
      (∃ o, ((create d none).execute .empty w).2.find? 2 = some o ∧ d.fits o = true) ∧
      ∃ t : Ticked, t.world = w ∧ g.Alone .empty d t ∧ (t.after .empty 3).MadeOnce d g.id w := by
  intro red d g
  let w : World := (World.new 2 1).perform (.create {})
  have hreachable : w.Reachable := ⟨2, 1, [.create {}], rfl⟩
  have hmade : d.MadeAsTried none w := by
    intro blueprint cell hok _
    have halike : ∀ t ∈ [red], ¬ t.TellsApart blueprint cell := by
      refine List.forall_mem_singleton.mpr ?_
      rintro (⟨hreads, -⟩ | ⟨hreads, -⟩) <;> cases hreads
    obtain ⟨terms, hterms, hconjunction⟩ := synthesizeFirst_eq_ok hok
    obtain rfl := List.mem_singleton.mp hterms
    exact .inr ⟨_, hterms, hconjunction, halike⟩
  have hcreated : ((create d none).execute .empty w).1.result = .created 2 := by decide +kernel
  let t : Ticked := ⟨⟨0, []⟩, {}, ⟨[g]⟩, w⟩
  have halone : g.Alone .empty d t := by
    refine ⟨rfl, rfl, rfl, rfl, rfl⟩
  obtain ⟨hfits, honce, -⟩ := Action.created_fits hreachable .empty
  exact ⟨w, hreachable, by decide +kernel, hmade, hcreated, hfits d none 2 hmade hcreated, t, rfl,
    halone, honce d g t hmade rfl halone 3⟩

end Apprentice
