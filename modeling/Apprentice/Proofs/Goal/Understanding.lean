import Apprentice.Proofs.Goal.Inquiry

/-!
# Pursuing a goal to understand a word

A goal that was opened for a word never becomes anything else. When it is taken up it is achieved
if the word is known. Otherwise there is one thing to do, which is to ask; a plan to do so has one
step, and starts over when this was carried out, so that it is as it was when it was made.
-/

namespace Apprentice

variable {lexicon : Lexicon} {store : GoalStore} {p : Progress} {g : Goal} {concept : String}
  {id : GoalId} {tick : Nat}

/-- A goal for a concept is as it was opened, apart from its status. -/
theorem GoalStore.Reachable.eq_toUnderstand (hstore : store.Reachable) (hg : g ∈ store.goals)
    (hconcept : g.concept = some concept) :
    g = { Goal.toUnderstand concept g.id g.createdTick with status := g.status } := by
  induction hstore generalizing g with
  | empty => cases hg
  | opened _ kind description condition tick ih =>
      rcases List.mem_append.mp hg with hold | hnew
      · exact ih hold hconcept
      · rw [List.mem_singleton.mp hnew] at hconcept
        cases hconcept
  | @asked store _ word tick ih =>
      rcases openUnderstanding_cases store word tick with ⟨_, -, -, hopen⟩ | ⟨-, hopen⟩
      · rw [hopen] at hg
        exact ih hg hconcept
      · rw [hopen] at hg
        rcases List.mem_append.mp hg with hold | hnew
        · exact ih hold hconcept
        · obtain rfl := List.mem_singleton.mp hnew
          obtain rfl := Option.some.inj hconcept
          rfl
  | @closed store _ id status ih =>
      rw [close] at hg
      split at hg
      next =>
        obtain ⟨h, hh, rfl⟩ := List.mem_map.mp hg
        dsimp only at hconcept ⊢
        split at hconcept
        next hclosed =>
          rw [if_pos hclosed]
          rw [ih hh hconcept]
          rfl
        next hother =>
          rw [if_neg hother]
          exact ih hh hconcept
      next => exact ih hg hconcept

theorem GoalStore.Reachable.eq_toUnderstand_of_active (hstore : store.Reachable)
    (hg : g ∈ store.goals) (hactive : g.isActive = true) (hconcept : g.concept = some concept) :
    g = .toUnderstand concept g.id g.createdTick := by
  have hopened := hstore.eq_toUnderstand hg hconcept
  rwa [show g.status = .active from of_decide_eq_true hactive] at hopened

/-! ### The plan -/

theorem Goal.plan_understanding (g : Goal) (hkind : g.kind = .understand) (lexicon : Lexicon)
    (world : World) : g.plan lexicon world = .ok (understandingPlan g lexicon) := by
  rw [plan, hkind]

theorem PlanTable.insert_congr {table other : PlanTable} {plan : Plan}
    (hothers : table.erase plan.goal = other.erase plan.goal) :
    table.insert plan = other.insert plan := by
  rw [insert, insert, hothers]

def Plan.asking (concept : String) (id : GoalId) : Plan where
  goal := id
  steps := [.outputQuestion concept (understandQuestion concept)]
  repeatable := true
  strategy := "ask for a definition"

theorem understandingPlan_of_unknown (hunknown : lexicon.contains concept = false) :
    understandingPlan (.toUnderstand concept id tick) lexicon = .asking concept id := by
  have hconcept : (Goal.toUnderstand concept id tick).concept.getD "" = concept := rfl
  rw [understandingPlan, hconcept, hunknown]
  rfl

/-- What a tick tells of a goal to understand a concept that is not known: that it is planned for,
if there is no plan, and that it asks. -/
def inquiry (concept : String) (id : GoalId) (planned : Bool) : List TickEvent :=
  (if planned then [] else [.planned id "ask for a definition" [.outputQuestion]]) ++
    [.executed id .outputQuestion
      ⟨understandQuestion concept, .question (understandQuestion concept)⟩]

theorem Goal.after_inquiry (g : Goal) (concept : String) (planned : Bool) :
    g.after (inquiry concept g.id planned) = g := by
  have htold : ∀ e ∈ inquiry concept g.id planned, e.goal = g.id := by
    cases planned <;> simp [inquiry, TickEvent.goal]
  have hopen : closingStatus? (inquiry concept g.id planned) = none := by
    cases planned <;> rfl
  rw [after_self htold, hopen]
  rfl

/-! ### Its turn -/

namespace Progress

theorem advance_toUnderstand (hnumbered : p.goals.Numbered)
    (hg : .toUnderstand concept id tick ∈ p.goals.goals) (lexicon : Lexicon) :
    p.advance lexicon id = p.advanceGoal (.toUnderstand concept id tick) lexicon := by
  have hstored : p.goals.get? id = some (.toUnderstand concept id tick) := hnumbered.get?_of_mem hg
  rw [advance, hstored]
  rfl

theorem advanceGoal_of_known (hknown : lexicon.contains concept = true) :
    p.advanceGoal (.toUnderstand concept id tick) lexicon = p.complete id := by
  rw [advanceGoal, if_pos]
  · rfl
  · exact ⟨rfl, hknown⟩

theorem not_known (hunknown : lexicon.contains concept = false) :
    ¬((Goal.toUnderstand concept id tick).kind = .understand ∧
      (Goal.toUnderstand concept id tick).concept.any lexicon.contains = true) := by
  rintro ⟨-, hknown⟩
  exact Bool.false_ne_true (hunknown.symm.trans hknown)

theorem checkCondition_of_unknown (hunknown : lexicon.contains concept = false) (p : Progress) :
    p.checkCondition (.verifyUnderstanding concept) lexicon = (false, p) := by
  have hanswer : (Answer.understanding concept lexicon).result.isTruthy = false := by
    rw [Answer.understanding, hunknown]
    rfl
  change ((Answer.understanding concept lexicon).result.isTruthy, _) = _
  rw [hanswer]

theorem goals_ensurePlan (hkind : g.kind = .understand) (lexicon : Lexicon) :
    ∃ planned, p.ensurePlan g lexicon = .ok planned ∧ planned.goals = p.goals := by
  rw [ensurePlan, g.plan_understanding hkind]
  split
  · exact ⟨_, rfl, rfl⟩
  · exact ⟨_, rfl, rfl⟩

theorem goals_takeStep : (p.takeStep id lexicon).goals = p.goals := by
  rw [takeStep]
  split
  next => rfl
  next => split <;> rfl

theorem goals_continuePlan (hkind : g.kind = .understand) (lexicon : Lexicon) :
    (p.continuePlan g lexicon).goals = p.goals := by
  rw [continuePlan, g.plan_understanding hkind]
  dsimp only
  split
  next => rfl
  next =>
    split
    next => rfl
    next => split <;> rfl

theorem advanceGoal_of_unknown (hunknown : lexicon.contains concept = false) :
    (p.advanceGoal (.toUnderstand concept id tick) lexicon).goals = p.goals := by
  obtain ⟨planned, hplanned, hgoals⟩ :=
    goals_ensurePlan (p := p) (g := .toUnderstand concept id tick) rfl lexicon
  have hcondition : (Goal.toUnderstand concept id tick).condition =
      .verifyUnderstanding concept := rfl
  rw [advanceGoal, if_neg (not_known hunknown), hplanned]
  dsimp only
  rw [hcondition, checkCondition_of_unknown hunknown]
  exact (goals_continuePlan rfl lexicon).trans (goals_takeStep.trans hgoals)

theorem ensurePlan_of_unknown (hunknown : lexicon.contains concept = false)
    (hcached : ∀ plan, p.plans.get? id = some plan → plan = .asking concept id) (tick : Nat) :
    ∃ plans, p.ensurePlan (.toUnderstand concept id tick) lexicon = .ok
        { p with
          events := p.events ++ if p.plans.contains id then [] else
            [.planned id "ask for a definition" [.outputQuestion]]
          plans := plans } ∧
      plans.get? id = some (.asking concept id) ∧ plans.erase id = p.plans.erase id := by
  have hid : (Goal.toUnderstand concept id tick).id = id := rfl
  rw [ensurePlan, hid, Goal.plan_understanding _ rfl, understandingPlan_of_unknown hunknown]
  cases hcontains : p.plans.contains id with
  | true =>
      obtain ⟨plan, hplan⟩ := Option.isSome_iff_exists.mp hcontains
      refine ⟨p.plans, ?_, hcached plan hplan ▸ hplan, rfl⟩
      rw [if_pos rfl, if_pos rfl, List.append_nil]
  | false =>
      refine ⟨p.plans.insert (.asking concept id), ?_, PlanTable.get?_insert rfl,
        PlanTable.erase_insert rfl⟩
      rfl

/-- A goal to understand a concept that is not known asks, and keeps its plan. -/
theorem advanceGoal_asks (hunknown : lexicon.contains concept = false)
    (hcached : ∀ plan, p.plans.get? id = some plan → plan = .asking concept id) :
    p.advanceGoal (.toUnderstand concept id tick) lexicon =
      { p with
        events := p.events ++ inquiry concept id (p.plans.contains id)
        plans := p.plans.insert (.asking concept id) } := by
  have hid : (Goal.toUnderstand concept id tick).id = id := rfl
  have hcondition : (Goal.toUnderstand concept id tick).condition =
      .verifyUnderstanding concept := rfl
  obtain ⟨plans, hplanned, hplan, hothers⟩ := ensurePlan_of_unknown hunknown hcached tick
  have hadvanced : (plans.insert (Plan.asking concept id).advance).get? id =
      some (Plan.asking concept id).advance :=
    PlanTable.get?_insert Plan.advance_goal
  rw [advanceGoal, if_neg (not_known hunknown), hplanned]
  dsimp only
  rw [hid, takeStep_next hplan rfl, hcondition, checkCondition_of_unknown hunknown]
  dsimp only
  rw [if_neg Bool.false_ne_true, continuePlan_repeatable hadvanced rfl rfl, setPlan]
  have hlast : (plans.insert (Plan.asking concept id).advance).insert
      (Plan.asking concept id).advance.rewind = p.plans.insert (.asking concept id) :=
    PlanTable.insert_congr ((PlanTable.erase_insert rfl).trans hothers)
  rw [hlast, inquiry, ← List.append_assoc]
  rfl

end Progress

end Apprentice
