import Apprentice.Proofs.Goal.Inquiry

/-!
# The life of a goal

Goals are opened and ended by callers, and ticks come in between and end goals as well. Whatever
happens, a step does one of two things to the store: it puts one new goal behind the others, or it
changes the status of goals that are active. So goals keep their places, and with them their numbers
and all that they were opened with, and what has ended stays as it ended.
-/

namespace Apprentice

variable {store later : GoalStore} {g h : Goal} {id : GoalId} {status : GoalStatus}

/-! ### What may become of a goal -/

/-- Whether a goal is what has become of a goal: they differ in status at most, and only if the goal
was active. -/
structure Goal.Becomes (g later : Goal) : Prop where
  same : later = { g with status := later.status }
  final : g.isActive = false → later = g

theorem Goal.becomes_refl (g : Goal) : g.Becomes g where
  same := rfl
  final := fun _ => rfl

theorem Goal.Becomes.trans {last : Goal} (hfirst : g.Becomes h) (hthen : h.Becomes last) :
    g.Becomes last where
  same := by
    rw [hthen.same, hfirst.same]
  final := by
    intro hended
    obtain rfl := hfirst.final hended
    exact hthen.final hended

namespace GoalStore

/-- Whether a store is what has become of a store: at every place there is the same goal, and there
may be more goals behind. -/
def Continues (store later : GoalStore) : Prop :=
  ∀ (i : Nat) (g : Goal), store.goals[i]? = some g → ∃ h, later.goals[i]? = some h ∧ g.Becomes h

theorem continues_refl (store : GoalStore) : store.Continues store :=
  fun _ g hg => ⟨g, hg, g.becomes_refl⟩

theorem Continues.trans {last : GoalStore} (hfirst : store.Continues later)
    (hthen : later.Continues last) : store.Continues last := by
  intro i g hg
  obtain ⟨h, hh, hbecomes⟩ := hfirst i g hg
  obtain ⟨k, hk, hbecomes'⟩ := hthen i h hh
  exact ⟨k, hk, hbecomes.trans hbecomes'⟩

/-! ### Changes -/

/-- What may happen to a store. A tick comes with the scheduler, the words and the world that there
are at its time. -/
inductive Change where
  | opened (kind : GoalKind) (description : String) (condition : Action) (tick : Nat)
  | asked (word : String) (tick : Nat)
  | completed (id : GoalId)
  | failed (id : GoalId) (reason : String)
  | cancelled (id : GoalId)
  | ticked (scheduler : Scheduler) (lexicon : Lexicon) (world : World)

def apply (store : GoalStore) : Change → GoalStore
  | .opened kind description condition tick =>
    (store.openGoal kind description condition tick).2
  | .asked word tick => (store.openUnderstanding word tick).2.2
  | .completed id => (store.complete id).2
  | .failed id reason => (store.fail id reason).2
  | .cancelled id => (store.cancel id).2
  | .ticked scheduler lexicon world => (scheduler.tick store lexicon world).goals

def ofChanges (changes : List Change) : GoalStore :=
  changes.foldl apply {}

theorem Reachable.apply (hstore : store.Reachable) (change : Change) :
    (store.apply change).Reachable := by
  cases change with
  | opened kind description condition tick => exact .opened hstore kind description condition tick
  | asked word tick => exact .asked hstore word tick
  | completed id => exact .closed hstore id .completed
  | failed id reason => exact .closed hstore id (.failed reason)
  | cancelled id => exact .closed hstore id (.failed "cancelled")
  | ticked scheduler lexicon world => exact (hstore.exists_after scheduler lexicon world).1

theorem Reachable.foldl_apply (hstore : store.Reachable) (changes : List Change) :
    (changes.foldl GoalStore.apply store).Reachable := by
  induction changes generalizing store with
  | nil => exact hstore
  | cons change changes ih => exact ih (hstore.apply change)

/-- Whether all goals are left at their places, and only active ones are ended. -/
def Settles (store next : GoalStore) : Prop :=
  ∃ f : Goal → Goal, next.goals = store.goals.map f ∧ ∀ g ∈ store.goals, g.Becomes (f g)

theorem settles_refl (store : GoalStore) : store.Settles store :=
  ⟨fun g => g, (List.map_id' _).symm, fun g _ => g.becomes_refl⟩

theorem settles_close (store : GoalStore) (id : GoalId) (status : GoalStatus) :
    store.Settles (store.close id status).2 := by
  rw [close]
  split
  next =>
    refine ⟨closed id status, rfl, fun g _ => ?_⟩
    rw [closed]
    split
    next hclosed =>
      refine ⟨rfl, fun hended => ?_⟩
      rw [hended, Bool.and_false] at hclosed
      cases hclosed
    next => exact g.becomes_refl
  next => exact store.settles_refl

theorem Reachable.settles_tick (hstore : store.Reachable) (scheduler : Scheduler)
    (lexicon : Lexicon) (world : World) :
    store.Settles (scheduler.tick store lexicon world).goals := by
  obtain ⟨-, told, hafter, hended⟩ := hstore.exists_after scheduler lexicon world
  exact ⟨Goal.after told, hafter, fun g hg => ⟨rfl, hended g hg⟩⟩

theorem Settles.nextId_eq (hsettles : store.Settles later) : later.nextId = store.nextId := by
  obtain ⟨f, hgoals, -⟩ := hsettles
  rw [nextId, nextId, hgoals, List.length_map]

theorem Settles.continues (hsettles : store.Settles later) : store.Continues later := by
  obtain ⟨f, hgoals, hbecomes⟩ := hsettles
  intro i g hg
  refine ⟨f g, ?_, hbecomes g (List.mem_of_getElem? hg)⟩
  rw [hgoals, List.getElem?_map, hg]
  rfl

theorem continues_append (store : GoalStore) (g : Goal) : store.Continues (store.append g) := by
  intro i h hh
  refine ⟨h, ?_, h.becomes_refl⟩
  rw [append, List.getElem?_append_left (List.getElem?_eq_some_iff.mp hh).1, hh]

theorem Reachable.continues_apply (hstore : store.Reachable) (change : Change) :
    store.Continues (store.apply change) := by
  cases change with
  | opened kind description condition tick => exact store.continues_append _
  | asked word tick =>
      rw [GoalStore.apply, openUnderstanding]
      split
      next => exact store.continues_refl
      next => exact store.continues_append _
  | completed id => exact (store.settles_close id .completed).continues
  | failed id reason => exact (store.settles_close id (.failed reason)).continues
  | cancelled id => exact (store.settles_close id (.failed "cancelled")).continues
  | ticked scheduler lexicon world => exact (hstore.settles_tick scheduler lexicon world).continues

theorem Reachable.continues (hstore : store.Reachable) (changes : List Change) :
    store.Continues (changes.foldl GoalStore.apply store) := by
  induction changes generalizing store with
  | nil => exact store.continues_refl
  | cons change changes ih =>
      exact (hstore.continues_apply change).trans (ih (hstore.apply change))

/-! ### Looking up -/

/-- A goal is found at the place that its id says just as by going through all goals. -/
theorem Numbered.get?_eq_find? (hnumbered : store.Numbered) (id : GoalId) :
    store.get? id = store.goals.find? fun g => g.id == id := by
  cases hfind : store.goals.find? fun g => g.id == id with
  | some g =>
      have hid : g.id = id := by simpa using List.find?_some hfind
      rw [← hid]
      exact hnumbered.get?_of_mem (List.mem_of_find?_eq_some hfind)
  | none =>
      cases hget : store.get? id with
      | none => rfl
      | some g =>
          obtain ⟨hg, hid⟩ := mem_of_get? hget
          exact absurd (by simpa using hid) (List.find?_eq_none.mp hfind g hg)

theorem Continues.exists_get? (hcontinues : store.Continues later) (hnumbered : later.Numbered)
    (hg : store.get? id = some g) : ∃ h, later.get? id = some h ∧ g.Becomes h := by
  obtain ⟨hmem, rfl⟩ := mem_of_get? hg
  obtain ⟨i, hi, hplace⟩ := List.getElem_of_mem hmem
  obtain ⟨h, hh, hbecomes⟩ := hcontinues i g (List.getElem?_eq_some_iff.mpr ⟨hi, hplace⟩)
  have hid : h.id = g.id := by rw [hbecomes.same]
  exact ⟨h, hid ▸ hnumbered.get?_of_mem (List.mem_of_getElem? hh), hbecomes⟩

/-! ### Ending goals -/

/-- What it means that a goal was ended, or not: the goal was active and has the status now; or
there was no active goal with the id, and the store is as it was. -/
structure Closes (store : GoalStore) (id : GoalId) (status : GoalStatus)
    (result : Bool × GoalStore) : Prop where
  changed : result.1 = true → ∃ g, store.get? id = some g ∧ g.isActive = true ∧
    result.2.get? id = some { g with status := status }
  unchanged : result.1 = false → result.2 = store ∧
    ∀ g, store.get? id = some g → g.isActive = false
  others : ∀ other, other ≠ id → result.2.get? other = store.get? other

theorem Numbered.closes (hnumbered : store.Numbered) (id : GoalId) (status : GoalStatus) :
    store.Closes id status (store.close id status) := by
  rw [close]
  split
  next hany =>
    obtain ⟨g, hg, hopen⟩ := List.any_eq_true.mp hany
    obtain ⟨hid, hactive⟩ := Bool.and_eq_true_iff.mp hopen
    obtain rfl := eq_of_beq hid
    refine ⟨fun _ => ⟨g, hnumbered.get?_of_mem hg, hactive, ?_⟩, Bool.noConfusion, ?_⟩
    · rw [get?_setStatus, hnumbered.get?_of_mem hg, Option.map_some, closed, if_pos hopen]
    · intro other hother
      rw [get?_setStatus]
      cases hget : store.get? other with
      | none => rfl
      | some o =>
          have hne : (o.id == g.id) = false := by
            rw [(mem_of_get? hget).2]
            exact beq_eq_false_iff_ne.mpr hother
          rw [Option.map_some, closed, hne]
          rfl
  next hnone =>
    refine ⟨Bool.noConfusion, fun _ => ⟨rfl, fun g hget => ?_⟩, fun _ _ => rfl⟩
    obtain ⟨hg, hid⟩ := mem_of_get? hget
    by_contra hactive
    exact hnone (List.any_eq_true.mpr ⟨g, hg, by simpa [hid] using hactive⟩)

/-- What holds of a store at all times. -/
structure Orderly (store : GoalStore) : Prop where
  numbered : store.goals.map Goal.id = List.range' 1 store.goals.length
  lookup : ∀ id, store.get? id = store.goals.find? fun g => g.id == id
  completes : ∀ id, store.Closes id .completed (store.complete id)
  fails : ∀ id reason, store.Closes id (.failed reason) (store.fail id reason)
  cancels : ∀ id, store.Closes id (.failed "cancelled") (store.cancel id)
  opens : ∀ kind description condition tick,
    (store.openGoal kind description condition tick).2.get?
        (store.openGoal kind description condition tick).1 =
      some ⟨store.nextId, description, kind, none, condition, .active, tick⟩
  asks : ∀ word tick, ∃ g,
    (store.openUnderstanding word tick).2.2.get? (store.openUnderstanding word tick).1 = some g ∧
      g.isActive = true

theorem Numbered.get?_append (hnumbered : store.Numbered) (hid : g.id = store.nextId) :
    (store.append g).get? store.nextId = some g := by
  rw [← hid]
  exact (hnumbered.append hid).get?_of_mem (List.mem_append_right _ List.mem_cons_self)

theorem Numbered.orderly (hnumbered : store.Numbered) : store.Orderly where
  numbered := hnumbered
  lookup := hnumbered.get?_eq_find?
  completes := fun id => hnumbered.closes id .completed
  fails := fun id reason => hnumbered.closes id (.failed reason)
  cancels := fun id => hnumbered.closes id (.failed "cancelled")
  opens := fun _ _ _ _ => hnumbered.get?_append rfl
  asks := by
    intro word tick
    rw [openUnderstanding]
    split
    next g hfind =>
      have hopen : g.isActive = true := by
        have hfound := List.find?_some hfind
        simp only [Bool.and_eq_true] at hfound
        exact hfound.1.1
      exact ⟨g, hnumbered.get?_of_mem (List.mem_of_find?_eq_some hfind), hopen⟩
    next => exact ⟨_, hnumbered.get?_append rfl, rfl⟩

/-! ### Numbers from a counter -/

/-- A store with a counter. -/
structure Counted where
  store : GoalStore
  next : Nat

namespace Counted

variable {c : Counted}

def number (c : Counted) : GoalId :=
  max c.next 1

def append (c : Counted) (g : Goal) : Counted :=
  ⟨c.store.append g, g.id + 1⟩

def apply (c : Counted) : Change → Counted
  | .opened kind description condition tick =>
    c.append ⟨c.number, description, kind, none, condition, .active, tick⟩
  | .asked word tick =>
    match c.store.activeUnderstanding? (normalizeWord word) with
    | some _ => c
    | none => c.append (.toUnderstand (normalizeWord word) c.number tick)
  | change => ⟨c.store.apply change, c.next⟩

def ofChanges (start : Nat) (changes : List Change) : Counted :=
  changes.foldl apply ⟨{}, start⟩

theorem apply_eq (hstore : c.store.Reachable) (hnumber : c.number = c.store.nextId)
    (change : Change) :
    (c.apply change).store = c.store.apply change ∧
      (c.apply change).number = (c.store.apply change).nextId := by
  have happend : ∀ g : Goal, g.id = c.store.nextId →
      (c.append g).number = (c.store.append g).nextId := by
    intro g hid
    rw [number, append, hid, GoalStore.append, nextId, nextId, List.length_append]
    exact Nat.max_eq_left (Nat.succ_pos _)
  cases change with
  | opened kind description condition tick =>
      rw [apply, hnumber]
      exact ⟨rfl, happend _ rfl⟩
  | asked word tick =>
      rw [apply, GoalStore.apply, openUnderstanding, hnumber]
      cases c.store.activeUnderstanding? (normalizeWord word) with
      | some g => exact ⟨rfl, hnumber⟩
      | none => exact ⟨rfl, happend _ rfl⟩
  | completed id => exact ⟨rfl, hnumber.trans (c.store.settles_close id .completed).nextId_eq.symm⟩
  | failed id reason =>
      exact ⟨rfl, hnumber.trans (c.store.settles_close id (.failed reason)).nextId_eq.symm⟩
  | cancelled id =>
      exact ⟨rfl, hnumber.trans (c.store.settles_close id (.failed "cancelled")).nextId_eq.symm⟩
  | ticked scheduler lexicon world =>
      exact ⟨rfl, hnumber.trans (hstore.settles_tick scheduler lexicon world).nextId_eq.symm⟩

theorem foldl_apply (hstore : c.store.Reachable) (hnumber : c.number = c.store.nextId)
    (changes : List Change) :
    (changes.foldl apply c).store = changes.foldl GoalStore.apply c.store := by
  induction changes generalizing c with
  | nil => rfl
  | cons change changes ih =>
      obtain ⟨hsame, hnext⟩ := apply_eq hstore hnumber change
      rw [List.foldl_cons, List.foldl_cons, ← hsame]
      exact ih (hsame ▸ hstore.apply change) (hsame ▸ hnext)

end Counted

/-- Whatever happened to goals, they are numbered from one on in the order in which they stand, each
is found by its number, and each operation does what it says. Whatever happens then, every goal
keeps its place and all that it was opened with, and its status as well once it is not active. It
does not matter for this whether the numbers come from a counter that starts at one or at zero. -/
theorem lifecycle (changes more : List Change) :
    (ofChanges changes).Orderly ∧ (ofChanges changes).Continues (ofChanges (changes ++ more)) ∧
      ∀ start ≤ 1, (Counted.ofChanges start changes).store = ofChanges changes := by
  have hreachable : (ofChanges changes).Reachable := Reachable.empty.foldl_apply changes
  refine ⟨hreachable.numbered.orderly, ?_, fun start hstart => ?_⟩
  · rw [ofChanges, ofChanges, List.foldl_append]
    exact hreachable.continues more
  · have hnumber : (Counted.mk {} start).number = ({} : GoalStore).nextId := Nat.max_eq_right hstart
    exact Counted.foldl_apply Reachable.empty hnumber changes

/-- A goal is cancelled, then asked for again, and completed by a tick. -/
example :
    let known : Lexicon := ⟨[⟨"ball", .social, "toy", .text "toy"⟩], by decide⟩
    let store := ofChanges [.asked "ball" 0, .cancelled 1, .asked "Ball" 1,
      .ticked {} known (World.new 2 1), .completed 1]
    store.goals.map (fun g => (g.id, g.status)) = [(1, .failed "cancelled"), (2, .completed)] := by
  decide +kernel

end GoalStore

end Apprentice
