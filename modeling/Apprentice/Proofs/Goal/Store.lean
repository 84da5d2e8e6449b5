import Apprentice.Goal.Plan
import Apprentice.Goal.Store

/-!
# Goals and plans by id

What the goal store and the plan table answer after a change. Closing a goal changes the status of
that goal and nothing else; the plan of one goal does not concern the plans of the others.
-/

namespace Apprentice

/-! ### Goals -/

namespace GoalStore

variable {store : GoalStore} {g : Goal} {id x : GoalId} {status : GoalStatus}

def closed (id : GoalId) (status : GoalStatus) (g : Goal) : Goal :=
  if g.id == id && g.isActive then { g with status := status } else g

@[simp] theorem closed_id : (closed id status g).id = g.id := by
  unfold closed
  split <;> rfl

theorem get?_setStatus :
    (store.setStatus id status).get? x = (store.get? x).map (closed id status) := by
  have hsame : (fun g : Goal => g.id == x) ∘ closed id status = fun g => g.id == x := by
    funext g
    simp
  have hfilter : ∀ stored : Option Goal,
      (stored.map (closed id status)).filter (fun g => g.id == x)
        = (stored.filter fun g => g.id == x).map (closed id status) := by
    rintro (_ | g)
    · rfl
    · by_cases hg : g.id = x <;> simp [Option.filter, hg]
  have hplace : (if x = 0 then none else (store.setStatus id status).goals[x - 1]?)
      = (if x = 0 then none else store.goals[x - 1]?).map (closed id status) := by
    split
    · rfl
    · exact List.getElem?_map
  have hfind : (store.setStatus id status).goals.find? (fun g => g.id == x)
      = (store.goals.find? fun g => g.id == x).map (closed id status) := by
    change (store.goals.map (closed id status)).find? _ = _
    rw [List.find?_map, hsame]
  rw [get?, get?, hplace, hfilter, hfind]
  cases (if x = 0 then none else store.goals[x - 1]?).filter fun g => g.id == x <;> rfl

theorem closed_isActive (hstatus : status ≠ .active) :
    (closed id status g).isActive = (g.isActive && g.id != id) := by
  unfold closed
  split
  next hclosed =>
    obtain ⟨hid, -⟩ := Bool.and_eq_true_iff.mp hclosed
    simp [Goal.isActive, hstatus, bne, hid]
  next hother =>
    cases hactive : g.isActive with
    | false => rfl
    | true => simpa [hactive] using hother

theorem active_setStatus (hstatus : status ≠ .active) :
    (store.setStatus id status).active = store.active.filter fun g => g.id != id := by
  have hmap : ∀ goals : List Goal, (goals.map (closed id status)).filter Goal.isActive
      = (goals.filter Goal.isActive).filter fun g => g.id != id := by
    intro goals
    induction goals with
    | nil => rfl
    | cons g goals ih =>
        rw [List.map_cons, List.filter_cons, List.filter_cons, closed_isActive hstatus, ih]
        cases hactive : g.isActive with
        | false => simp
        | true =>
            cases hid : g.id != id with
            | false => simp [hid]
            | true => simp [closed, bne_iff_ne.mp hid, hid]
  exact hmap store.goals

theorem close_of_active (hmem : g ∈ store.active) :
    store.close g.id status = (true, store.setStatus g.id status) := by
  obtain ⟨hstored, hactive⟩ := List.mem_filter.mp hmem
  have hany : (store.goals.any fun other => other.id == g.id && other.isActive) = true :=
    List.any_eq_true.mpr ⟨g, hstored, by simp [hactive]⟩
  rw [close, if_pos hany]

/-! ### Stores that goals are opened and closed in -/

/-- A store that nothing was done with but opening goals and closing them. -/
inductive Reachable : GoalStore → Prop
  | empty : Reachable {}
  | opened {store : GoalStore} (hstore : Reachable store) (kind : GoalKind) (description : String)
      (condition : Action) (tick : Nat) :
      Reachable (store.openGoal kind description condition tick).2
  | asked {store : GoalStore} (hstore : Reachable store) (word : String) (tick : Nat) :
      Reachable (store.openUnderstanding word tick).2.2
  | closed {store : GoalStore} (hstore : Reachable store) (id : GoalId) (status : GoalStatus) :
      Reachable (store.close id status).2

/-- Goals are numbered in the order in which they stand. -/
def Numbered (store : GoalStore) : Prop :=
  store.goals.map Goal.id = List.range' 1 store.goals.length

theorem Numbered.append (hnumbered : store.Numbered) (hid : g.id = store.nextId) :
    (store.append g).Numbered := by
  rw [Numbered] at hnumbered
  rw [Numbered, GoalStore.append, List.map_append, List.length_append, hnumbered,
    List.length_singleton, List.range'_concat, List.map_singleton, hid, nextId, Nat.one_mul,
    Nat.add_comm]

theorem Numbered.setStatus (hnumbered : store.Numbered) (id : GoalId) (status : GoalStatus) :
    (store.setStatus id status).Numbered := by
  change (store.goals.map (GoalStore.closed id status)).map Goal.id =
    List.range' 1 (store.goals.map (GoalStore.closed id status)).length
  rw [List.length_map, List.map_map, ← hnumbered]
  exact List.map_congr_left fun _ _ => closed_id

theorem Reachable.numbered (hreachable : store.Reachable) : store.Numbered := by
  induction hreachable with
  | empty => rfl
  | opened _ _ _ _ _ ih => exact ih.append rfl
  | asked _ word tick ih =>
      rw [openUnderstanding]
      split
      · exact ih
      · exact ih.append rfl
  | closed _ id status ih =>
      rw [close]
      split
      · exact ih.setStatus id status
      · exact ih

theorem Numbered.get?_of_mem (hnumbered : store.Numbered) (hg : g ∈ store.goals) :
    store.get? g.id = some g := by
  obtain ⟨i, hi, hplace⟩ := List.getElem_of_mem hg
  have hid : g.id = i + 1 := by
    have hids : (store.goals.map Goal.id)[i]? = (List.range' 1 store.goals.length)[i]? :=
      congrArg (·[i]?) hnumbered
    rw [List.getElem?_map, List.getElem?_eq_getElem hi, hplace, List.getElem?_range' hi] at hids
    simpa [Nat.add_comm] using hids
  rw [get?, if_neg (by simp [hid]), hid, Nat.add_sub_cancel, List.getElem?_eq_getElem hi, hplace]
  simp [Option.filter, hid]

end GoalStore

/-! ### Plans -/

namespace Plan

variable {plan : Plan}

theorem advance_of_done (hdone : plan.nextStep? = none) : plan.advance = plan := by
  rw [advance, if_pos]
  simpa [isExhausted] using List.getElem?_eq_none_iff.mp hdone

@[simp] theorem advance_goal : plan.advance.goal = plan.goal := by
  rw [advance]
  split <;> rfl

@[simp] theorem advance_steps : plan.advance.steps = plan.steps := by
  rw [advance]
  split <;> rfl

@[simp] theorem advance_repeatable : plan.advance.repeatable = plan.repeatable := by
  rw [advance]
  split <;> rfl

end Plan

namespace PlanTable

variable {table : PlanTable} {p : Plan} {goal : GoalId} {keep : GoalId → Bool}

theorem get?_insert (hgoal : p.goal = goal) : (table.insert p).get? goal = some p := by
  simp [insert, get?, hgoal]

theorem contains_retain (hnone : table.contains goal = false) :
    (table.retain keep).contains goal = false := by
  rw [contains, Option.isSome_eq_false_iff, Option.isNone_iff_eq_none] at hnone ⊢
  rw [get?, List.find?_eq_none] at hnone ⊢
  intro p hp
  exact hnone p (List.mem_filter.mp hp).1

theorem contains_retain_of_not (hdrop : keep goal = false) :
    (table.retain keep).contains goal = false := by
  rw [contains, Option.isSome_eq_false_iff, Option.isNone_iff_eq_none, get?, List.find?_eq_none]
  intro p hp hgoal
  obtain ⟨-, hkept⟩ := List.mem_filter.mp hp
  rw [eq_of_beq hgoal, hdrop] at hkept
  cases hkept

theorem get?_retain (hkeep : keep goal = true) :
    (table.retain keep).get? goal = table.get? goal := by
  rw [get?, get?, retain, List.find?_filter]
  congr 1
  funext p
  by_cases hgoal : p.goal = goal
  · simp [hgoal, hkeep]
  · simp [hgoal]

theorem contains_erase : (table.erase goal).contains goal = false :=
  contains_retain_of_not (by simp)

theorem goal_of_get? (hplan : table.get? goal = some p) : p.goal = goal := by
  simpa using List.find?_some hplan

theorem get?_of_not_contains (hnone : table.contains goal = false) : table.get? goal = none := by
  simpa [contains] using hnone

theorem get?_erase_of_ne {other : GoalId} (hother : other ≠ goal) :
    (table.erase goal).get? other = table.get? other :=
  get?_retain (by simp [hother])

theorem erase_of_not_contains (hnone : table.contains goal = false) : table.erase goal = table := by
  have hother := List.find?_eq_none.mp (get?_of_not_contains hnone)
  have hkept : table.plans.filter (fun p => p.goal != goal) = table.plans :=
    List.filter_eq_self.mpr fun p hp => by simpa using hother p hp
  rw [erase, retain, hkept]

theorem erase_erase : (table.erase goal).erase goal = table.erase goal :=
  erase_of_not_contains contains_erase

theorem erase_insert (hgoal : p.goal = goal) : (table.insert p).erase goal = table.erase goal := by
  subst hgoal
  change PlanTable.mk ((p :: (table.erase p.goal).plans).filter fun other => other.goal != p.goal) = _
  rw [List.filter_cons_of_neg (by simp)]
  exact erase_erase

/-- Whether no goal has two plans, so that every plan is found by its goal. -/
def Keyed (table : PlanTable) : Prop :=
  (table.plans.map Plan.goal).Nodup

theorem Keyed.retain (hkeyed : table.Keyed) (keep : GoalId → Bool) : (table.retain keep).Keyed :=
  hkeyed.sublist (List.filter_sublist.map Plan.goal)

theorem Keyed.insert (hkeyed : table.Keyed) (p : Plan) : (table.insert p).Keyed := by
  refine List.nodup_cons.mpr ⟨fun hmem => ?_, hkeyed.retain _⟩
  obtain ⟨other, hother, hgoal⟩ := List.mem_map.mp hmem
  exact absurd hgoal (by simpa using (List.mem_filter.mp hother).2)

theorem Keyed.get?_of_mem (hkeyed : table.Keyed) (hp : p ∈ table.plans) :
    table.get? p.goal = some p := by
  rw [get?, List.find?_eq_some_iff_append]
  obtain ⟨before, after, hsplit⟩ := List.append_of_mem hp
  refine ⟨by simp, before, after, hsplit, fun other hother => ?_⟩
  rw [Keyed, hsplit, List.map_append] at hkeyed
  obtain ⟨-, -, hdistinct⟩ := List.nodup_append.mp hkeyed
  simpa using hdistinct _ (List.mem_map_of_mem hother) _ (List.mem_map_of_mem List.mem_cons_self)

end PlanTable

end Apprentice
