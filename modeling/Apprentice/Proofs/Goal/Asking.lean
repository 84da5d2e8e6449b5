import Apprentice.Proofs.Goal.Lifecycle
import Apprentice.Proofs.Goal.Understanding

/-!
# Asking until taught

A goal that was opened for a word asks for it in every tick, and is completed by the first tick
that starts when the word is known; it does not matter what else happens. In its turn a goal finds
what there was of it when the tick started, since the goals before it do not concern it, and what it
leaves is what there is of it when the tick ends. Between the ticks, what is kept is that such a
goal has no plan but the one to ask.
-/

namespace Apprentice

variable {lexicon : Lexicon} {g : Goal} {p : Progress} {ids : List GoalId} {s t : Situation}
  {concept : String} {id : GoalId}

/-! ### The turn of a goal -/

/-- How a goal fares while goals are taken up one after the other. When it is taken up there is of
it what there was, what is told of it then is all that is told of it, and what it comes to then is
what there is of it at the end. -/
structure Progress.Turn (lexicon : Lexicon) (g : Goal) (p last turn : Progress)
    (own : List TickEvent) : Prop where
  numbered : turn.goals.Numbered
  stored : g ∈ turn.goals.goals
  active : g.id ∈ turn.goals.activeIds
  plan : turn.plans.get? g.id = p.plans.get? g.id
  events : (turn.advance lexicon g.id).events = turn.events ++ own
  told : about g.id last.events = about g.id p.events ++ own
  left : g.after own ∈ last.goals.goals
  kept : last.plans.get? g.id = (turn.advance lexicon g.id).plans.get? g.id

theorem Progress.exists_turn (hnumbered : p.goals.Numbered) (hids : ids.Nodup)
    (hactive : ∀ id ∈ ids, id ∈ p.goals.activeIds) (hg : g ∈ p.goals.goals) (hid : g.id ∈ ids)
    (lexicon : Lexicon) :
    ∃ turn told, Turn lexicon g p (ids.foldl (advance lexicon) p) turn told := by
  obtain ⟨before, after, rfl⟩ := List.append_of_mem hid
  obtain ⟨hbefore, hrest, hapart⟩ := List.nodup_append.mp hids
  obtain ⟨hnew, hafter⟩ := List.nodup_cons.mp hrest
  obtain ⟨hactiveBefore, hactiveRest⟩ := List.forall_mem_append.mp hactive
  obtain ⟨hopen, hactiveAfter⟩ := List.forall_mem_cons.mp hactiveRest
  have hold : g.id ∉ before := fun hmem => hapart _ hmem _ List.mem_cons_self rfl
  -- the goals before it
  obtain ⟨earlier, hearlier⟩ := accounted_foldl hnumbered hbefore hactiveBefore lexicon
  have hturnNumbered := hnumbered.of_after hearlier.goals
  have hstored : g ∈ (before.foldl (advance lexicon) p).goals.goals := by
    rw [hearlier.goals, ← Goal.after_of_about_eq_nil (hearlier.silent hold)]
    exact List.mem_map_of_mem hg
  have hstillActive : ∀ id ∈ g.id :: after,
      id ∈ (before.foldl (advance lexicon) p).goals.activeIds :=
    fun id hmem => mem_activeIds_after hearlier.goals
      (hearlier.silent fun hmem' => hapart _ hmem' _ hmem rfl) (hactiveRest id hmem)
  obtain ⟨hturnActive, hturnAfter⟩ := List.forall_mem_cons.mp hstillActive
  -- its own turn
  obtain ⟨told, hadvanced⟩ := advanced_advance hturnNumbered hturnActive lexicon
  have htold : ∀ e ∈ told, e.goal = g.id := fun e he => hadvanced.account.goal_of_mem he
  have hgoals := hturnNumbered.settle hturnActive htold
  rw [← hadvanced.goals] at hgoals
  -- the goals after it
  obtain ⟨later, hlater⟩ := accounted_foldl (hturnNumbered.of_after hgoals) hafter
    (fun id hmem => mem_activeIds_after hgoals (about_eq_nil fun e he hsame => hnew (by
      rwa [← htold e he, hsame])) (hturnAfter id hmem)) lexicon
  refine ⟨_, told, hturnNumbered, hstored, hturnActive, hearlier.others _ hold, hadvanced.events,
    ?_, ?_, ?_⟩
  · rw [List.foldl_append, List.foldl_cons, hlater.events, hadvanced.events, hearlier.events,
      about_append, about_append, about_append, hearlier.silent hold, hlater.silent hnew,
      about_self htold, List.append_nil, List.append_nil]
  · have hkept : (g.after told).after later = g.after told :=
      Goal.after_of_about_eq_nil (hlater.silent hnew)
    rw [List.foldl_append, List.foldl_cons, hlater.goals, hgoals, ← hkept]
    exact List.mem_map_of_mem (List.mem_map_of_mem hstored)
  · rw [List.foldl_append, List.foldl_cons, hlater.others _ hnew]

/-! ### A tick for a goal to understand a concept -/

namespace Situation

def told (s : Situation) (id : GoalId) : List TickEvent :=
  about id (s.scheduler.tick s.goals s.lexicon s.world).report.events

/-- Whether there are plans for goals only, and for a goal for a concept only the plan to ask. -/
def Devoted (s : Situation) : Prop :=
  ∀ id plan, s.scheduler.plans.get? id = some plan → ∃ g, s.goals.get? id = some g ∧
    ∀ concept, g.concept = some concept → plan = .asking concept id

/-- What a tick comes to for a goal that is active when it starts. -/
theorem Sound.exists_turn (hsound : s.Sound) (hg : s.goals.get? g.id = some g)
    (hactive : g.isActive = true) :
    ∃ last turn own,
      Progress.Turn s.lexicon g ⟨s.goals, s.scheduler.plans, s.world, []⟩ last turn own ∧
      s.told g.id = own ∧ (s.next .tick).goals.get? g.id = some (g.after own) ∧
      (s.next .tick).scheduler.plans = last.plans.retain (s.next .tick).goals.isActive := by
  have hnumbered := hsound.goals.numbered
  have hmem := (GoalStore.mem_of_get? hg).1
  obtain ⟨turn, own, hturn⟩ := Progress.exists_turn
    (p := ⟨s.goals, s.scheduler.plans, s.world, []⟩) hnumbered
    (hnumbered.activeIds_ascending.imp Nat.ne_of_lt) (fun _ hid => hid) hmem
    (GoalStore.mem_activeIds.mpr ⟨g, hmem, hactive, rfl⟩) s.lexicon
  exact ⟨_, turn, own, hturn, hturn.told,
    (hsound.next .tick).goals.numbered.get?_of_mem hturn.left, rfl⟩

/-- What it means that a tick asks for a concept: the goal stays as it is, and has the plan to ask
now, if it had not before. -/
structure Asks (s : Situation) (g : Goal) (concept : String) : Prop where
  told : s.told g.id = inquiry concept g.id (s.scheduler.plans.contains g.id)
  goal : (s.next .tick).goals.get? g.id = some g
  plan : (s.next .tick).scheduler.plans.get? g.id = some (.asking concept g.id)

theorem Sound.asks (hsound : s.Sound) (hdevoted : s.Devoted) (hg : s.goals.get? g.id = some g)
    (hactive : g.isActive = true) (hconcept : g.concept = some concept)
    (hunknown : s.lexicon.contains concept = false) : s.Asks g concept := by
  obtain ⟨last, turn, own, hturn, htold, hgoal, hplans⟩ := hsound.exists_turn hg hactive
  have hopened :=
    hsound.goals.eq_toUnderstand_of_active (GoalStore.mem_of_get? hg).1 hactive hconcept
  have hcached : ∀ plan, turn.plans.get? g.id = some plan → plan = .asking concept g.id := by
    intro plan hplan
    rw [hturn.plan] at hplan
    obtain ⟨h, hh, hasks⟩ := hdevoted g.id plan hplan
    obtain rfl := Option.some.inj (hg.symm.trans hh)
    exact hasks concept hconcept
  have hadvance := (Progress.advance_toUnderstand hturn.numbered (hopened ▸ hturn.stored)
    s.lexicon).trans (Progress.advanceGoal_asks hunknown hcached)
  have hown : own = inquiry concept g.id (s.scheduler.plans.contains g.id) := by
    have hevents := hturn.events
    rw [hadvance] at hevents
    rw [← List.append_cancel_left hevents, PlanTable.contains, PlanTable.contains, hturn.plan]
  have hsame : (s.next .tick).goals.get? g.id = some g := by
    rw [hgoal, hown, Goal.after_inquiry]
  have hstill : (s.next .tick).goals.isActive g.id = true := by
    rw [GoalStore.isActive, hsame, Option.any_some, hactive]
  refine ⟨htold.trans hown, hsame, ?_⟩
  rw [hplans, PlanTable.get?_retain hstill, hturn.kept, hadvance]
  exact PlanTable.get?_insert rfl

/-- What it means that a tick completes a goal: nothing else is told of it, and it has no plan, in
this tick or ever. -/
structure Completes (s : Situation) (g : Goal) : Prop where
  told : s.told g.id = [.completed g.id]
  goal : ∀ more, ((s.next .tick).run more).goals.get? g.id = some { g with status := .completed }
  dropped : ∀ more, ((s.next .tick).run more).scheduler.plans.contains g.id = false

/-! ### Between ticks -/

theorem Sound.continues_next (hsound : s.Sound) (happening : Happening) :
    s.goals.Continues (s.next happening).goals := by
  cases happening with
  | opened kind description condition tick =>
      exact hsound.goals.continues_apply (.opened kind description condition tick)
  | asked word tick => exact hsound.goals.continues_apply (.asked word tick)
  | completed goal => exact hsound.goals.continues_apply (.completed goal)
  | failed goal reason => exact hsound.goals.continues_apply (.failed goal reason)
  | cancelled goal => exact hsound.goals.continues_apply (.cancelled goal)
  | taught lexicon => exact s.goals.continues_refl
  | changed world => exact s.goals.continues_refl
  | tick => exact hsound.goals.continues_apply (.ticked s.scheduler s.lexicon s.world)

theorem Sound.continues_run (hsound : s.Sound) (happenings : List Happening) :
    s.goals.Continues (s.run happenings).goals := by
  induction happenings generalizing s with
  | nil => exact s.goals.continues_refl
  | cons happening happenings ih =>
      exact (hsound.continues_next happening).trans (ih (hsound.next happening))

theorem Sound.exists_get?_next (hsound : s.Sound) (hg : s.goals.get? id = some g)
    (happening : Happening) : ∃ h, (s.next happening).goals.get? id = some h ∧ g.Becomes h :=
  (hsound.continues_next happening).exists_get? (hsound.next happening).goals.numbered hg

/-- A goal that was ended stays as it is, and never gets a plan again. -/
theorem Sound.ended_run (hsound : s.Sound) (hg : s.goals.get? id = some g)
    (hended : g.isActive = false) (hdropped : s.scheduler.plans.contains id = false)
    (more : List Happening) :
    (s.run more).goals.get? id = some g ∧ (s.run more).scheduler.plans.contains id = false := by
  induction more generalizing s with
  | nil => exact ⟨hg, hdropped⟩
  | cons happening more ih =>
      obtain ⟨h, hh, hbecomes⟩ := hsound.exists_get?_next hg happening
      obtain rfl := hbecomes.final hended
      refine ih (hsound.next happening) hh ?_
      cases happening with
      | tick =>
          refine hsound.tick.2.ended id ?_
          rw [GoalStore.isActive, hh, Option.any_some, hended]
      | _ => exact hdropped

theorem Sound.completes (hsound : s.Sound) (hg : s.goals.get? g.id = some g)
    (hactive : g.isActive = true) (hconcept : g.concept = some concept)
    (hknown : s.lexicon.contains concept = true) : s.Completes g := by
  obtain ⟨last, turn, own, hturn, htold, hgoal, -⟩ := hsound.exists_turn hg hactive
  have hopened :=
    hsound.goals.eq_toUnderstand_of_active (GoalStore.mem_of_get? hg).1 hactive hconcept
  have hadvance := (Progress.advance_toUnderstand hturn.numbered (hopened ▸ hturn.stored)
    s.lexicon).trans (Progress.advanceGoal_of_known hknown)
  have hown : own = [.completed g.id] := by
    have hevents := hturn.events
    rw [hadvance, Progress.complete_of_active hturn.active] at hevents
    exact (List.append_cancel_left hevents).symm
  have hdone : (s.next .tick).goals.get? g.id = some { g with status := .completed } := by
    rw [hgoal, hown, Goal.after_self fun e he => by rw [List.mem_singleton.mp he, TickEvent.goal]]
    rfl
  have hdropped : (s.next .tick).scheduler.plans.contains g.id = false := by
    refine hsound.tick.2.ended g.id ?_
    rw [GoalStore.isActive, hdone]
    rfl
  have hforever := (hsound.next .tick).ended_run hdone rfl hdropped
  exact ⟨htold.trans hown, fun more => (hforever more).1, fun more => (hforever more).2⟩

/-! ### The plans of goals for concepts -/

theorem devoted_start (lexicon : Lexicon) (w : World) : (Situation.mk {} {} lexicon w).Devoted :=
  fun _ _ hplan => by cases hplan

theorem Devoted.of_exists_get? (hdevoted : s.Devoted)
    (hgoals : ∀ id g, s.goals.get? id = some g → ∃ h, t.goals.get? id = some h ∧ g.Becomes h)
    (hplans : t.scheduler = s.scheduler) : t.Devoted := by
  intro id plan hplan
  rw [hplans] at hplan
  obtain ⟨g, hg, hasks⟩ := hdevoted id plan hplan
  obtain ⟨h, hh, hbecomes⟩ := hgoals id g hg
  refine ⟨h, hh, fun concept hconcept => hasks concept ?_⟩
  rw [hbecomes.same] at hconcept
  exact hconcept

/-- After a tick, goals for concepts that have a plan have just asked. -/
theorem Sound.devoted_tick (hsound : s.Sound) (hdevoted : s.Devoted) : (s.next .tick).Devoted := by
  intro id plan hplan
  have hactive : (s.next .tick).goals.isActive id = true := by
    by_contra hended
    have hnone := hsound.tick.2.ended id ((Bool.not_eq_true _).mp hended)
    cases hplan.symm.trans (PlanTable.get?_of_not_contains hnone)
  obtain ⟨h, hh, hopen⟩ := (Option.any_eq_true _ _).mp hactive
  refine ⟨h, hh, fun concept hconcept => ?_⟩
  obtain ⟨hmem, rfl⟩ := GoalStore.mem_of_get? hh
  obtain ⟨-, told, hafter, -⟩ := hsound.goals.exists_after s.scheduler s.lexicon s.world
  have hafter : (s.next .tick).goals.goals = s.goals.goals.map (Goal.after told) := hafter
  rw [hafter] at hmem
  obtain ⟨g, hg, rfl⟩ := List.mem_map.mp hmem
  have hstored : s.goals.get? g.id = some g := hsound.goals.numbered.get?_of_mem hg
  have hbefore : g.isActive = true := Goal.isActive_of_after hopen
  cases hknown : s.lexicon.contains concept with
  | false =>
      exact Option.some.inj (hplan.symm.trans
        (hsound.asks hdevoted hstored hbefore hconcept hknown).plan)
  | true =>
      have hnone := (hsound.completes hstored hbefore hconcept hknown).dropped []
      cases hplan.symm.trans (PlanTable.get?_of_not_contains hnone)

theorem Sound.devoted_next (hsound : s.Sound) (hdevoted : s.Devoted) (happening : Happening) :
    (s.next happening).Devoted := by
  cases happening with
  | tick => exact hsound.devoted_tick hdevoted
  | _ => exact hdevoted.of_exists_get? (fun _ _ hg => hsound.exists_get?_next hg _) rfl

theorem Sound.devoted_run (hsound : s.Sound) (hdevoted : s.Devoted) (happenings : List Happening) :
    (s.run happenings).Devoted := by
  induction happenings generalizing s with
  | nil => exact hdevoted
  | cons happening happenings ih =>
      exact ih (hsound.next happening) (hsound.devoted_next hdevoted happening)

/-! ### Goals that were opened for a word -/

/-- Whatever happens, a goal that was opened for a word is for a concept, and has a question. In a
tick that starts when the goal is active and the concept is not known, the goal asks its question,
once, and stays as it is. In a tick that starts when the goal is active and the concept is known,
the goal is completed and does nothing else; from then on it stays completed and has no plan. -/
theorem asks_until_taught (lexicon : Lexicon) (w : World) (before after : List Happening)
    (word : String) (tick : Nat) :
    let start := (Situation.mk {} {} lexicon w).run before
    let s := start.run (.asked word tick :: after)
    ∃ g concept, s.goals.get? (start.goals.openUnderstanding word tick).1 = some g ∧
      g.kind = .understand ∧ g.concept = some concept ∧
      g.question? = some (understandQuestion concept) ∧
      (g.isActive = true → s.lexicon.contains concept = false → s.Asks g concept) ∧
      (g.isActive = true → s.lexicon.contains concept = true → s.Completes g) := by
  intro start s
  have hstart : start.Sound := (sound_start lexicon w).run before
  have hdevoted : start.Devoted :=
    (sound_start lexicon w).devoted_run (devoted_start lexicon w) before
  have hsound : s.Sound := hstart.run _
  have hasked := hstart.next (.asked word tick)
  obtain ⟨opened, hopened, hid, hasks⟩ := start.goals.exists_opened word tick
  rw [← hid]
  have hconcept : ∃ concept, opened.asksFor concept = true := hasks.elim (⟨_, ·⟩) (⟨_, ·⟩)
  obtain ⟨concept, hasks⟩ := hconcept
  obtain ⟨g, hg, hbecomes⟩ := (hasked.continues_run after).exists_get? hsound.goals.numbered
    (hasked.goals.numbered.get?_of_mem hopened)
  obtain ⟨⟨-, hkind⟩, hfor⟩ : (opened.isActive = true ∧ opened.kind = .understand) ∧
      opened.concept = some concept := by
    simpa [Goal.asksFor] using hasks
  have hsame : g.id = opened.id ∧ g.kind = opened.kind ∧ g.concept = opened.concept := by
    rw [hbecomes.same]
    exact ⟨rfl, rfl, rfl⟩
  rw [← hsame.1] at hg ⊢
  rw [← hsame.2.1] at hkind
  rw [← hsame.2.2] at hfor
  refine ⟨g, concept, hg, hkind, hfor, by rw [Goal.question?, hfor, Option.map_some], ?_, ?_⟩
  · exact fun hactive hunknown =>
      hsound.asks (hstart.devoted_run hdevoted _) hg hactive hfor hunknown
  · exact fun hactive hknown => hsound.completes hg hactive hfor hknown

/-- A word is asked for in capitals; it is asked about after a tick and a change of the world, and
not any more when it was taught in the middle of two goals. -/
theorem asks_until_taught_zork :
    let start := Situation.mk {} {} .empty (World.new 2 1)
    let known : Lexicon := ⟨[⟨"zork", .social, "toy", .text "toy"⟩], by decide⟩
    let asking := start.run [.asked "ZORK" 0, .tick, .changed (World.new 3 3)]
    let taught := start.run [.asked "ball" 0, .asked "ZORK" 0, .tick, .taught known]
    (∃ g, asking.goals.get? 1 = some g ∧ g.isActive = true ∧ g.concept = some "zork" ∧
      asking.lexicon.contains "zork" = false ∧ asking.Asks g "zork") ∧
    ∃ g, taught.goals.get? 2 = some g ∧ g.isActive = true ∧ g.concept = some "zork" ∧
      taught.lexicon.contains "zork" = true ∧ taught.Completes g := by
  intro start known asking taught
  have hasking : (asking.goals.get? 1).map (fun g => (g.concept, g.isActive)) =
      some (some "zork", true) := by
    decide +kernel
  have htaught : (taught.goals.get? 2).map (fun g => (g.concept, g.isActive)) =
      some (some "zork", true) := by
    decide +kernel
  have hunknown : asking.lexicon.contains "zork" = false := by decide +kernel
  have hknown : taught.lexicon.contains "zork" = true := by decide +kernel
  obtain ⟨g, concept, hg, -, hconcept, -, hasks, -⟩ :=
    asks_until_taught .empty (World.new 2 1) [] [.tick, .changed (World.new 3 3)] "ZORK" 0
  obtain ⟨h, other, hh, -, hother, -, -, hcompletes⟩ :=
    asks_until_taught .empty (World.new 2 1) [.asked "ball" 0] [.tick, .taught known] "ZORK" 0
  have hfirst : ((start.run []).goals.openUnderstanding "ZORK" 0).1 = 1 := by decide +kernel
  have hsecond : ((start.run [.asked "ball" 0]).goals.openUnderstanding "ZORK" 0).1 = 2 := by
    decide +kernel
  replace hg : asking.goals.get? 1 = some g := hfirst ▸ hg
  replace hh : taught.goals.get? 2 = some h := hsecond ▸ hh
  rw [hg, Option.map_some, Option.some.injEq, Prod.mk.injEq] at hasking
  rw [hh, Option.map_some, Option.some.injEq, Prod.mk.injEq] at htaught
  obtain rfl : concept = "zork" := Option.some.inj (hconcept.symm.trans hasking.1)
  obtain rfl : other = "zork" := Option.some.inj (hother.symm.trans htaught.1)
  exact ⟨⟨g, hg, hasking.2, hconcept, hunknown, hasks hasking.2 hunknown⟩,
    h, hh, htaught.2, hother, hknown, hcompletes htaught.2 hknown⟩

end Situation

end Apprentice
