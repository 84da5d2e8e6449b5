import Apprentice.Proofs.Goal.Advance
import Mathlib.Data.List.Forall2

/-!
# Tick reports

A tick tells of the active goals one after the other, in the order in which they were opened, and
what it tells of a goal is all that happens to it: a goal is ended by a tick exactly when the report
says so, in the way that the report says, and nothing else about any goal changes.
-/

namespace Apprentice

variable {lexicon : Lexicon} {store : GoalStore} {g : Goal} {p q last : Progress} {goal : GoalId}
  {ids : List GoalId} {told later : List TickEvent}

def about (goal : GoalId) (told : List TickEvent) : List TickEvent :=
  told.filter fun e => e.goal == goal

theorem about_append (goal : GoalId) (told later : List TickEvent) :
    about goal (told ++ later) = about goal told ++ about goal later :=
  List.filter_append _ _

theorem mem_about {e : TickEvent} : e ∈ about goal told ↔ e ∈ told ∧ e.goal = goal := by
  simp [about]

theorem about_self (htold : ∀ e ∈ told, e.goal = goal) : about goal told = told :=
  List.filter_eq_self.mpr fun e he => by simpa using htold e he

theorem about_eq_nil (hother : ∀ e ∈ told, e.goal ≠ goal) : about goal told = [] :=
  List.filter_eq_nil_iff.mpr fun e he => by simpa using hother e he

/-- A goal after all that is told of it. -/
def Goal.after (told : List TickEvent) (g : Goal) : Goal :=
  { g with status := (closingStatus? (about g.id told)).getD g.status }

theorem Goal.after_of_about_eq_nil (hnone : about g.id told = []) : g.after told = g := by
  rw [Goal.after, hnone]
  rfl

theorem Goal.after_of_ne (htold : ∀ e ∈ told, e.goal = goal) (hother : g.id ≠ goal) :
    g.after told = g :=
  after_of_about_eq_nil (about_eq_nil fun e he hid => hother (hid ▸ htold e he))

theorem Goal.after_self (htold : ∀ e ∈ told, e.goal = g.id) :
    g.after told = { g with status := (closingStatus? told).getD g.status } := by
  rw [Goal.after, about_self htold]

/-! ### Stores -/

theorem GoalStore.mem_activeIds :
    goal ∈ store.activeIds ↔ ∃ g ∈ store.goals, g.isActive = true ∧ g.id = goal := by
  simp [activeIds, active, and_assoc]

theorem GoalStore.Numbered.isActive_of_mem (hnumbered : store.Numbered) (hg : g ∈ store.goals)
    (hactive : g.id ∈ store.activeIds) : g.isActive = true := by
  obtain ⟨other, hother, hisActive, hid⟩ := mem_activeIds.mp hactive
  have hsame : some other = some g := by
    rw [← hnumbered.get?_of_mem hother, ← hnumbered.get?_of_mem hg, hid]
  exact Option.some.inj hsame ▸ hisActive

theorem GoalStore.Numbered.of_after (hnumbered : store.Numbered) {next : GoalStore}
    (hafter : next.goals = store.goals.map (Goal.after told)) : next.Numbered := by
  have hids : next.goals.map Goal.id = store.goals.map Goal.id := by
    rw [hafter, List.map_map]
    rfl
  rw [Numbered, hids, hafter, List.length_map]
  exact hnumbered

theorem GoalStore.Reachable.settle (hreachable : store.Reachable) (goal : GoalId)
    (closing : Option GoalStatus) : (store.settle goal closing).Reachable := by
  cases closing with
  | none => exact hreachable
  | some status => exact .closed hreachable goal status

theorem GoalStore.Numbered.settle (hnumbered : store.Numbered) (hactive : goal ∈ store.activeIds)
    (htold : ∀ e ∈ told, e.goal = goal) :
    (store.settle goal (closingStatus? told)).goals = store.goals.map (Goal.after told) := by
  cases hclosing : closingStatus? told with
  | none =>
      have hsame : ∀ g ∈ store.goals, g.after told = g := by
        intro g _
        by_cases hid : g.id = goal
        · subst hid
          rw [Goal.after_self htold, hclosing]
          rfl
        · exact Goal.after_of_ne htold hid
      rw [GoalStore.settle, List.map_congr_left hsame, List.map_id']
  | some status =>
      obtain ⟨g, hg, hisActive, rfl⟩ := mem_activeIds.mp hactive
      rw [GoalStore.settle, close_of_active (List.mem_filter.mpr ⟨hg, hisActive⟩)]
      refine List.map_congr_left fun other hother => ?_
      by_cases hid : other.id = g.id
      · have hopen : other.isActive = true := hnumbered.isActive_of_mem hother (hid ▸ hactive)
        rw [Goal.after_self (hid ▸ htold), hclosing]
        simp [hid, hopen]
      · rw [Goal.after_of_ne htold hid]
        simp [hid]

/-! ### One goal after the other -/

/-- What is told in a tick of goals that are taken up one after the other, and what that does. -/
structure Progress.Accounted (ids : List GoalId) (p last : Progress) (told : List TickEvent) :
    Prop where
  events : last.events = p.events ++ told
  grouped : told = ids.flatMap fun id => about id told
  accounts : ∀ id ∈ ids, Account id (about id told)
  goals : last.goals.goals = p.goals.goals.map (Goal.after told)
  reachable : p.goals.Reachable → last.goals.Reachable
  keyed : p.plans.Keyed → last.plans.Keyed
  others : ∀ id, id ∉ ids → last.plans.get? id = p.plans.get? id
  ready : (∀ id ∈ ids, ∀ plan, p.plans.get? id = some plan → plan.Rewindable) →
    ∀ id ∈ ids, ∀ plan, last.plans.get? id = some plan → plan.Ready

namespace Progress

theorem advanced_advance (hnumbered : p.goals.Numbered) (hactive : goal ∈ p.goals.activeIds)
    (lexicon : Lexicon) : ∃ told, Advanced goal p (p.advance lexicon goal) told := by
  obtain ⟨g, hg, -, rfl⟩ := GoalStore.mem_activeIds.mp hactive
  rw [advance, hnumbered.get?_of_mem hg]
  exact advanced_advanceGoal (g := { g with condition := g.condition.withCurrentMeanings lexicon })
    hactive lexicon

theorem Advanced.get?_of_ne (hadvanced : Advanced goal p q told) {other : GoalId}
    (hother : other ≠ goal) : q.plans.get? other = p.plans.get? other := by
  rw [← PlanTable.get?_erase_of_ne hother, hadvanced.others, PlanTable.get?_erase_of_ne hother]

theorem mem_activeIds_after {store next : GoalStore}
    (hafter : next.goals = store.goals.map (Goal.after told)) (hother : about goal told = [])
    (hactive : goal ∈ store.activeIds) : goal ∈ next.activeIds := by
  obtain ⟨g, hg, hisActive, rfl⟩ := GoalStore.mem_activeIds.mp hactive
  refine GoalStore.mem_activeIds.mpr ⟨g, ?_, hisActive, rfl⟩
  rw [hafter, ← Goal.after_of_about_eq_nil hother]
  exact List.mem_map_of_mem hg

theorem accounted_nil (p : Progress) : Accounted [] p p [] where
  events := (List.append_nil _).symm
  grouped := rfl
  accounts := fun _ hid => absurd hid List.not_mem_nil
  goals := (List.map_id _).symm
  reachable := id
  keyed := id
  others := fun _ _ => rfl
  ready := fun _ _ hid => absurd hid List.not_mem_nil

/-- Nothing is told of goals that are not taken up. -/
theorem Accounted.silent (htold : Accounted ids p last told) {id : GoalId} (hid : id ∉ ids) :
    about id told = [] := by
  refine about_eq_nil fun e he hgoal => hid ?_
  rw [htold.grouped] at he
  obtain ⟨other, hother, hmem⟩ := List.mem_flatMap.mp he
  rwa [← hgoal, (mem_about.mp hmem).2]

theorem Accounted.cons (hnew : goal ∉ ids) (hfirst : Advanced goal p q told)
    (hgoals : q.goals.goals = p.goals.goals.map (Goal.after told))
    (hthen : Accounted ids q last later) : Accounted (goal :: ids) p last (told ++ later) := by
  have htold : ∀ e ∈ told, e.goal = goal := fun e he => hfirst.account.goal_of_mem he
  have hlater : ∀ e ∈ later, e.goal ∈ ids := by
    intro e he
    rw [hthen.grouped] at he
    obtain ⟨id, hid, hmem⟩ := List.mem_flatMap.mp he
    exact (hthen.accounts id hid).goal_of_mem hmem ▸ hid
  have hown : about goal (told ++ later) = told := by
    have hnone : about goal later = [] :=
      about_eq_nil fun e he hgoal => hnew (hgoal ▸ hlater e he)
    rw [about_append, about_self htold, hnone, List.append_nil]
  have hrest : ∀ id, id ≠ goal → about id (told ++ later) = about id later := by
    intro id hid
    have hnone : about id told = [] :=
      about_eq_nil fun e he hgoal => hid (hgoal ▸ htold e he)
    rw [about_append, hnone, List.nil_append]
  have hdistinct : ∀ id ∈ ids, id ≠ goal := fun id hid hsame => hnew (hsame ▸ hid)
  exact {
    events := by rw [hthen.events, hfirst.events, List.append_assoc]
    grouped := by
      have hsame : ids.map (fun id => about id (told ++ later)) =
          ids.map fun id => about id later :=
        List.map_congr_left fun id hid => hrest id (hdistinct id hid)
      rw [List.flatMap_cons, hown, List.flatMap_def, hsame, ← List.flatMap_def, ← hthen.grouped]
    accounts := by
      intro id hid
      rcases List.mem_cons.mp hid with rfl | hid
      · rw [hown]
        exact hfirst.account
      · rw [hrest id (hdistinct id hid)]
        exact hthen.accounts id hid
    goals := by
      rw [hthen.goals, hgoals, List.map_map]
      refine List.map_congr_left fun g _ => ?_
      by_cases hid : g.id = goal
      · have hnone : about g.id later = [] :=
          about_eq_nil fun e he hgoal => hnew (hid ▸ hgoal ▸ hlater e he)
        have hkept : (g.after told).after later = g.after told :=
          Goal.after_of_about_eq_nil hnone
        rw [Function.comp_apply, hkept, Goal.after, Goal.after, hid, hown, about_self htold]
      · rw [Function.comp_apply, Goal.after_of_ne htold hid, Goal.after, Goal.after, hrest _ hid]
    reachable := fun hreachable => hthen.reachable (hfirst.goals ▸ hreachable.settle goal _)
    keyed := hthen.keyed ∘ hfirst.keyed
    others := by
      intro id hid
      obtain ⟨hne, hid⟩ : id ≠ goal ∧ id ∉ ids := by simpa using hid
      rw [hthen.others id hid]
      exact hfirst.get?_of_ne hne
    ready := by
      intro hbefore id hid plan hplan
      obtain ⟨hgoal, hbefore⟩ := List.forall_mem_cons.mp hbefore
      rcases List.mem_cons.mp hid with rfl | hid
      · rw [hthen.others id hnew] at hplan
        exact hfirst.ready hgoal plan hplan
      · refine hthen.ready (fun other hother cached hcached => ?_) id hid plan hplan
        rw [hfirst.get?_of_ne (hdistinct other hother)] at hcached
        exact hbefore other hother cached hcached }

/-- Active goals are taken up one after the other, each of them once. -/
theorem accounted_foldl (hnumbered : p.goals.Numbered) (hids : ids.Nodup)
    (hactive : ∀ id ∈ ids, id ∈ p.goals.activeIds) (lexicon : Lexicon) :
    ∃ told, Accounted ids p (ids.foldl (advance lexicon) p) told := by
  induction ids generalizing p with
  | nil => exact ⟨[], accounted_nil p⟩
  | cons goal ids ih =>
      obtain ⟨hnew, hids⟩ := List.nodup_cons.mp hids
      obtain ⟨hgoal, hactive⟩ := List.forall_mem_cons.mp hactive
      obtain ⟨told, hfirst⟩ := advanced_advance hnumbered hgoal lexicon
      have htold : ∀ e ∈ told, e.goal = goal := fun e he => hfirst.account.goal_of_mem he
      have hgoals : (p.advance lexicon goal).goals.goals = p.goals.goals.map (Goal.after told) := by
        rw [hfirst.goals]
        exact hnumbered.settle hgoal htold
      obtain ⟨later, hthen⟩ := ih (hnumbered.of_after hgoals) hids fun id hid =>
        mem_activeIds_after hgoals (about_eq_nil fun e he hsame => hnew (by
          rwa [← htold e he, hsame])) (hactive id hid)
      exact ⟨told ++ later, hthen.cons hnew hfirst hgoals⟩

end Progress

/-! ### Reports -/

/-- What a report says of a goal, and how the goal stands after the tick. -/
structure TickReport.Tells (report : TickReport) (g next : Goal) : Prop where
  same : next = { g with status := next.status }
  changed : next.status ≠ g.status ↔
    .completed g.id ∈ report.events ∨ ∃ reason, .failed g.id reason ∈ report.events
  completed : .completed g.id ∈ report.events → next.status = .completed
  failed : ∀ reason, .failed g.id reason ∈ report.events → next.status = .failed reason

/-- Whether a report tells all that happened to the goals, one active goal after the other. -/
structure TickReport.Covers (report : TickReport) (before after : GoalStore) : Prop where
  ordered : before.activeIds.Pairwise (· < ·)
  grouped : report.events = before.activeIds.flatMap fun id => about id report.events
  silent : ∀ id, id ∉ before.activeIds → about id report.events = []
  accounts : ∀ id, Account id (about id report.events)
  goals : List.Forall₂ report.Tells before.goals after.goals

theorem GoalStore.Numbered.activeIds_ascending (hnumbered : store.Numbered) :
    store.activeIds.Pairwise (· < ·) := by
  have hids : (store.goals.map Goal.id).Pairwise (· < ·) := by
    rw [hnumbered]
    exact List.pairwise_lt_range'
  exact hids.sublist (List.filter_sublist.map Goal.id)

/-- What is told of an active goal agrees with what has become of it. -/
theorem Account.tells {report : TickReport} (haccount : Account g.id (about g.id report.events))
    (hactive : (∃ e ∈ report.events, e.goal = g.id) → g.isActive = true) :
    report.Tells g (g.after report.events) := by
  have hstatus : ∀ e ∈ report.events, e.goal = g.id → ∀ status, e.closing? = some status →
      (g.after report.events).status = status := by
    intro e he hgoal status hcloses
    rw [Goal.after, haccount.closingStatus?_of_mem (mem_about.mpr ⟨he, hgoal⟩) hcloses]
    rfl
  have hcompleted : .completed g.id ∈ report.events → (g.after report.events).status = .completed :=
    fun hmem => hstatus _ hmem rfl _ rfl
  have hfailed : ∀ reason, .failed g.id reason ∈ report.events →
      (g.after report.events).status = .failed reason :=
    fun reason hmem => hstatus _ hmem rfl _ rfl
  refine ⟨rfl, ⟨fun hchanged => ?_, fun htold => ?_⟩, hcompleted, hfailed⟩
  · cases hclosing : closingStatus? (about g.id report.events) with
    | none =>
        rw [Goal.after, hclosing] at hchanged
        exact absurd rfl hchanged
    | some status =>
        obtain ⟨e, he, hcloses⟩ := List.exists_of_findSome?_eq_some hclosing
        obtain ⟨he, hgoal⟩ := mem_about.mp he
        rcases TickEvent.closing?_eq_some.mp hcloses with ⟨hsame, -⟩ | ⟨reason, hsame, -⟩
        · exact .inl (hgoal ▸ hsame ▸ he)
        · exact .inr ⟨reason, hgoal ▸ hsame ▸ he⟩
  · have hopen : g.status = .active := by
      refine of_decide_eq_true (hactive ?_)
      rcases htold with hmem | ⟨reason, hmem⟩
      · exact ⟨_, hmem, rfl⟩
      · exact ⟨_, hmem, rfl⟩
    rw [hopen]
    rcases htold with hmem | ⟨reason, hmem⟩
    · rw [hcompleted hmem]
      exact GoalStatus.noConfusion
    · rw [hfailed reason hmem]
      exact GoalStatus.noConfusion

/-- The report of a tick tells exactly what happened to the goals. Its events are grouped by goal,
in the order in which the goals were opened, and are about goals that were active; a goal's status
changes exactly if its events say so, and to what they say, and nothing else of any goal changes. -/
theorem Scheduler.report_covers {goals : GoalStore} (hgoals : goals.Reachable)
    (scheduler : Scheduler) (lexicon : Lexicon) (w : World) :
    (scheduler.tick goals lexicon w).report.Covers goals
      (scheduler.tick goals lexicon w).goals := by
  have hnumbered := hgoals.numbered
  have hordered := hnumbered.activeIds_ascending
  obtain ⟨told, htold⟩ := Progress.accounted_foldl (p := ⟨goals, scheduler.plans, w, []⟩) hnumbered
    (hordered.imp Nat.ne_of_lt) (fun _ hid => hid) lexicon
  have hevents : (scheduler.tick goals lexicon w).report.events = told := htold.events
  have hafter : (scheduler.tick goals lexicon w).goals.goals = goals.goals.map (Goal.after told) :=
    htold.goals
  have hsilent : ∀ id, id ∉ goals.activeIds → about id told = [] := fun id hid => htold.silent hid
  have haccounts : ∀ id, Account id (about id told) := by
    intro id
    by_cases hid : id ∈ goals.activeIds
    · exact htold.accounts id hid
    · rw [hsilent id hid]
      exact .pursued .before .nothing .goesOn
  rw [← hevents] at hsilent haccounts hafter
  refine ⟨hordered, hevents ▸ htold.grouped, hsilent, haccounts, ?_⟩
  rw [hafter, List.forall₂_map_right_iff, List.forall₂_same]
  refine fun g hg => (haccounts g.id).tells fun ⟨e, he, hgoal⟩ => ?_
  refine hnumbered.isActive_of_mem hg (by_contra fun hid => ?_)
  have hmem : e ∈ about g.id (scheduler.tick goals lexicon w).report.events :=
    mem_about.mpr ⟨he, hgoal⟩
  rw [hsilent g.id hid] at hmem
  cases hmem

/-- Two words are to be understood, and one of the goals is cancelled before the tick. -/
theorem Scheduler.report_covers_cancelled :
    let asked := (({} : GoalStore).openUnderstanding "ball" 0).2.2.openUnderstanding "box" 1
    let goals := (asked.2.2.cancel 1).2
    let ticked := ({} : Scheduler).tick goals .empty (World.new 2 1)
    goals.Reachable ∧ ticked.report.Covers goals ticked.goals ∧
      about 1 ticked.report.events = [] ∧ about 2 ticked.report.events ≠ [] := by
  intro asked goals ticked
  have hgoals : goals.Reachable :=
    .closed (.asked (.asked .empty "ball" 0) "box" 1) 1 (.failed "cancelled")
  have htold : about 1 ticked.report.events = [] ∧ about 2 ticked.report.events ≠ [] := by
    decide +kernel
  exact ⟨hgoals, report_covers hgoals {} .empty (World.new 2 1), htold⟩

end Apprentice
