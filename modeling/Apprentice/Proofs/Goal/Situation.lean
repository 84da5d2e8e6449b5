import Apprentice.Proofs.Goal.Report

/-!
# Between ticks

Goals are opened and closed, words are taught and the world is changed at any time, and ticks come
in between. What is kept through all this is that every cached plan has a next step. A tick also
drops the plans of goals that are not active any more, so right after it every plan is one that the
next tick can go on with.
-/

namespace Apprentice

/-- All that a tick depends on. -/
structure Situation where
  goals : GoalStore := {}
  scheduler : Scheduler := {}
  lexicon : Lexicon
  world : World

/-- What may happen to a situation. Whatever is taught leads to a lexicon, and whatever is done to
the world leads to a world; which ones does not matter here. -/
inductive Happening where
  | opened (kind : GoalKind) (description : String) (condition : Action) (tick : Nat)
  | asked (word : String) (tick : Nat)
  | completed (goal : GoalId)
  | failed (goal : GoalId) (reason : String)
  | cancelled (goal : GoalId)
  | taught (lexicon : Lexicon)
  | changed (world : World)
  | tick

def Ticked.situation (t : Ticked) (lexicon : Lexicon) : Situation :=
  ⟨t.goals, t.scheduler, lexicon, t.world⟩

namespace Situation

/-- The situation after something happened. -/
def next (s : Situation) : Happening → Situation
  | .opened kind description condition tick =>
    { s with goals := (s.goals.openGoal kind description condition tick).2 }
  | .asked word tick => { s with goals := (s.goals.openUnderstanding word tick).2.2 }
  | .completed goal => { s with goals := (s.goals.complete goal).2 }
  | .failed goal reason => { s with goals := (s.goals.fail goal reason).2 }
  | .cancelled goal => { s with goals := (s.goals.cancel goal).2 }
  | .taught lexicon => { s with lexicon := lexicon }
  | .changed world => { s with world := world }
  | .tick => (s.scheduler.tick s.goals s.lexicon s.world).situation s.lexicon

def run (s : Situation) (happenings : List Happening) : Situation :=
  happenings.foldl next s

end Situation

variable {s : Situation} {store : GoalStore} {g : Goal} {goal : GoalId} {told : List TickEvent}
  {plan : Plan}

/-! ### Plans and goals after a tick -/

theorem GoalStore.mem_of_get? (hstored : store.get? goal = some g) :
    g ∈ store.goals ∧ g.id = goal := by
  rw [get?] at hstored
  cases hplace : (if goal = 0 then none else store.goals[goal - 1]?).filter
      fun g => g.id == goal with
  | none =>
      have hfind : store.goals.find? (fun g => g.id == goal) = some g := by
        simpa [hplace] using hstored
      exact ⟨List.mem_of_find?_eq_some hfind, by simpa using List.find?_some hfind⟩
  | some found =>
      obtain rfl : found = g := by simpa [hplace] using hstored
      obtain ⟨hexpected, hid⟩ := Option.filter_eq_some_iff.mp hplace
      refine ⟨?_, by simpa using hid⟩
      split at hexpected
      · cases hexpected
      · exact List.mem_of_getElem? hexpected

theorem GoalStore.mem_activeIds_of_isActive (hactive : store.isActive goal = true) :
    goal ∈ store.activeIds := by
  obtain ⟨g, hstored, hopen⟩ := (Option.any_eq_true _ _).mp hactive
  obtain ⟨hg, hid⟩ := mem_of_get? hstored
  exact mem_activeIds.mpr ⟨g, hg, hopen, hid⟩

theorem Goal.isActive_of_after (hactive : (g.after told).isActive = true) : g.isActive = true := by
  cases hclosing : closingStatus? (about g.id told) with
  | none =>
      rw [Goal.after, hclosing] at hactive
      exact hactive
  | some status =>
      obtain ⟨e, -, hcloses⟩ := List.exists_of_findSome?_eq_some hclosing
      rw [Goal.after, hclosing, isActive, decide_eq_true_iff] at hactive
      rcases TickEvent.closing?_eq_some.mp hcloses with ⟨-, rfl⟩ | ⟨reason, -, rfl⟩
      · cases hactive
      · cases hactive

theorem GoalStore.mem_activeIds_of_after {next : GoalStore}
    (hafter : next.goals = store.goals.map (Goal.after told)) (hactive : goal ∈ next.activeIds) :
    goal ∈ store.activeIds := by
  obtain ⟨g, hg, hopen, rfl⟩ := mem_activeIds.mp hactive
  rw [hafter] at hg
  obtain ⟨before, hbefore, rfl⟩ := List.mem_map.mp hg
  exact mem_activeIds.mpr ⟨before, hbefore, Goal.isActive_of_after hopen, rfl⟩

/-! ### What is kept -/

/-- What holds at all times: nothing was done with the goals but opening and closing them, a plan is
found by its goal, and it has a next step. -/
structure Situation.Sound (s : Situation) : Prop where
  goals : s.goals.Reachable
  keyed : s.scheduler.plans.Keyed
  ready : ∀ goal plan, s.scheduler.plans.get? goal = some plan → plan.Ready

/-- What holds of the plans right after a tick. -/
structure Situation.Current (s : Situation) : Prop where
  keyed : ∀ plan ∈ s.scheduler.plans.plans, s.scheduler.plans.get? plan.goal = some plan
  active : ∀ plan ∈ s.scheduler.plans.plans, s.goals.isActive plan.goal = true
  next : ∀ plan ∈ s.scheduler.plans.plans, plan.cursor < plan.steps.length
  rewound : ∀ plan ∈ s.scheduler.plans.plans, plan.repeatable = true → plan.cursor = 0
  ended : ∀ goal, s.goals.isActive goal = false → s.scheduler.plans.contains goal = false

theorem Plan.Ready.rewound (hready : plan.Ready) (hrepeatable : plan.repeatable = true) :
    plan.cursor = 0 := by
  have hsingle := hready.rewindable hrepeatable
  have hnext := hready.next
  omega

/-- Plans that are found belong to active goals and have a next step, so all of them are current. -/
theorem Situation.Sound.current (hsound : s.Sound)
    (hactive : ∀ goal plan, s.scheduler.plans.get? goal = some plan →
      s.goals.isActive goal = true) :
    s.Current := by
  have hfound : ∀ plan ∈ s.scheduler.plans.plans, s.scheduler.plans.get? plan.goal = some plan :=
    fun plan hplan => hsound.keyed.get?_of_mem hplan
  refine ⟨hfound, ?_, ?_, ?_, ?_⟩
  · exact fun plan hplan => hactive _ plan (hfound plan hplan)
  · exact fun plan hplan => (hsound.ready _ plan (hfound plan hplan)).next
  · exact fun plan hplan => (hsound.ready _ plan (hfound plan hplan)).rewound
  · intro goal hended
    by_contra hcached
    obtain ⟨plan, hplan⟩ := Option.isSome_iff_exists.mp (Bool.not_eq_false _ ▸ hcached)
    rw [hactive goal plan hplan] at hended
    cases hended

/-- A tick keeps what holds at all times, and leaves current plans only. -/
theorem Situation.Sound.tick (hsound : s.Sound) :
    (s.next .tick).Sound ∧ (s.next .tick).Current := by
  have hordered := hsound.goals.numbered.activeIds_ascending
  obtain ⟨told, htold⟩ := Progress.accounted_foldl (p := ⟨s.goals, s.scheduler.plans, s.world, []⟩)
    hsound.goals.numbered (hordered.imp Nat.ne_of_lt) (fun _ hid => hid) s.lexicon
  have hrewindable : ∀ id ∈ s.goals.activeIds, ∀ plan, s.scheduler.plans.get? id = some plan →
      plan.Rewindable := fun id _ plan hplan => (hsound.ready id plan hplan).rewindable
  have hkept : ∀ goal plan, (s.next .tick).scheduler.plans.get? goal = some plan →
      (s.next .tick).goals.isActive goal = true ∧ plan.Ready := by
    intro goal plan hplan
    cases hactive : (s.next .tick).goals.isActive goal with
    | false =>
        have hdropped : (s.next .tick).scheduler.plans.contains goal = false :=
          PlanTable.contains_retain_of_not hactive
        rw [PlanTable.get?_of_not_contains hdropped] at hplan
        cases hplan
    | true =>
        have hopen : goal ∈ s.goals.activeIds :=
          GoalStore.mem_activeIds_of_after htold.goals (GoalStore.mem_activeIds_of_isActive hactive)
        have hlast := (PlanTable.get?_retain hactive).symm.trans hplan
        exact ⟨rfl, htold.ready hrewindable goal hopen plan hlast⟩
  have hnext : (s.next .tick).Sound := {
    goals := htold.reachable hsound.goals
    keyed := (htold.keyed hsound.keyed).retain _
    ready := fun goal plan hplan => (hkept goal plan hplan).2 }
  exact ⟨hnext, hnext.current fun goal plan hplan => (hkept goal plan hplan).1⟩

theorem Situation.Sound.next (hsound : s.Sound) (happening : Happening) :
    (s.next happening).Sound := by
  cases happening with
  | opened kind description condition tick =>
      exact { hsound with goals := .opened hsound.goals kind description condition tick }
  | asked word tick => exact { hsound with goals := .asked hsound.goals word tick }
  | completed goal => exact { hsound with goals := .closed hsound.goals goal .completed }
  | failed goal reason => exact { hsound with goals := .closed hsound.goals goal (.failed reason) }
  | cancelled goal =>
      exact { hsound with goals := .closed hsound.goals goal (.failed "cancelled") }
  | taught lexicon => exact { hsound with }
  | changed world => exact { hsound with }
  | tick => exact hsound.tick.1

theorem Situation.Sound.run (hsound : s.Sound) (happenings : List Happening) :
    (s.run happenings).Sound := by
  induction happenings generalizing s with
  | nil => exact hsound
  | cons happening happenings ih => exact ih (hsound.next happening)

theorem Situation.sound_start (lexicon : Lexicon) (w : World) :
    (Situation.mk {} {} lexicon w).Sound where
  goals := .empty
  keyed := List.nodup_nil
  ready := fun _ _ hplan => by cases hplan

/-- Whatever happened before and between the ticks, right after a tick every cached plan is found
under its own goal, its goal is active, and it has a next step; one that is to be repeated starts
over. -/
theorem Situation.current_of_tick (lexicon : Lexicon) (w : World) (happenings : List Happening) :
    (((Situation.mk {} {} lexicon w).run happenings).next .tick).Current :=
  ((sound_start lexicon w).run happenings).tick.2

end Apprentice
