import Apprentice.Agent.Conversation
import Apprentice.Proofs.Goal.Situation

/-!
# Goals to understand words

There is never more than one active goal for a word. Before one is opened, the word is looked for
among the active goals, but not in the spelling in which it is going to be stored: it is put into
normal form once more. So all depends on the words being such that their normal form does not change
any more.
-/

namespace Apprentice

variable {store : GoalStore} {g : Goal} {word concept : String} {words : List String} {tick : Nat}

/-- Whether the normal form of a word is its own normal form. -/
def IsSettled (word : String) : Prop :=
  normalizeWord (normalizeWord word) = normalizeWord word

instance (word : String) : Decidable (IsSettled word) :=
  inferInstanceAs (Decidable (_ = _))

def Goal.asksFor (concept : String) (g : Goal) : Bool :=
  g.isActive && g.kind == .understand && g.concept == some concept

def Goal.toUnderstand (concept : String) (id : GoalId) (tick : Nat) : Goal :=
  ⟨id, "understand '" ++ concept ++ "'", .understand, some concept, .verifyUnderstanding concept,
    .active, tick⟩

theorem Goal.asksFor_toUnderstand {id : GoalId} (concept other : String) :
    (toUnderstand concept id tick).asksFor other = (concept == other) := by
  rw [Bool.eq_iff_iff]
  simp [asksFor, toUnderstand, isActive]

namespace GoalStore

def asking (store : GoalStore) (concept : String) : Nat :=
  store.goals.countP (Goal.asksFor concept)

/-- Whether no two active goals are to understand the same concept. -/
def Unrepeated (store : GoalStore) : Prop :=
  ∀ concept, store.asking concept ≤ 1

theorem unrepeated_empty : ({} : GoalStore).Unrepeated :=
  fun _ => Nat.zero_le 1

/-! ### Opening -/

theorem asking_append (store : GoalStore) (g : Goal) (concept : String) :
    (store.append g).asking concept =
      store.asking concept + if g.asksFor concept then 1 else 0 := by
  rw [asking, append, List.countP_append, List.countP_singleton]
  rfl

/-- There is a goal already to understand what a word becomes when it is put into normal form twice,
or a goal to understand its normal form is opened. -/
theorem openUnderstanding_cases (store : GoalStore) (word : String) (tick : Nat) :
    (∃ g ∈ store.goals, g.asksFor (normalizeWord (normalizeWord word)) = true ∧
      store.openUnderstanding word tick = (g.id, false, store)) ∨
    (store.asking (normalizeWord (normalizeWord word)) = 0 ∧
      store.openUnderstanding word tick = (store.nextId, true,
        store.append (.toUnderstand (normalizeWord word) store.nextId tick))) := by
  have hsearch : store.activeUnderstanding? (normalizeWord word) =
      store.goals.find? (Goal.asksFor (normalizeWord (normalizeWord word))) := rfl
  rw [openUnderstanding, hsearch]
  cases hfind : store.goals.find? (Goal.asksFor (normalizeWord (normalizeWord word))) with
  | some g => exact .inl ⟨g, List.mem_of_find?_eq_some hfind, List.find?_some hfind, rfl⟩
  | none =>
      refine .inr ⟨List.countP_eq_zero.mpr fun g hg => ?_, rfl⟩
      exact List.find?_eq_none.mp hfind g hg

theorem exists_opened (store : GoalStore) (word : String) (tick : Nat) :
    ∃ g ∈ (store.openUnderstanding word tick).2.2.goals,
      g.id = (store.openUnderstanding word tick).1 ∧
        (g.asksFor (normalizeWord word) = true ∨
          g.asksFor (normalizeWord (normalizeWord word)) = true) := by
  rcases openUnderstanding_cases store word tick with ⟨g, hg, hasks, hopen⟩ | ⟨-, hopen⟩
  · rw [hopen]
    exact ⟨g, hg, rfl, .inr hasks⟩
  · rw [hopen]
    exact ⟨_, List.mem_append_right _ List.mem_cons_self, rfl,
      .inl ((Goal.asksFor_toUnderstand _ _).trans (beq_self_eq_true _))⟩

/-- How a store goes on when words are asked for: goals are added for those of them for which there
were none. -/
structure Asked (store : GoalStore) (words : List String) (opened : List GoalId)
    (next : GoalStore) : Prop where
  added : ∃ goals, next.goals = store.goals ++ goals ∧ opened = goals.map Goal.id ∧
    ∀ g ∈ goals, ∃ word ∈ words, g.asksFor (normalizeWord word) = true
  kept : store.Unrepeated → next.Unrepeated
  asked : ∀ word ∈ words, 0 < next.asking (normalizeWord word)
  idle : (∀ word ∈ words, 0 < store.asking (normalizeWord word)) → opened = [] ∧ next = store

theorem Asked.asking_le {opened : List GoalId} {next : GoalStore}
    (hasked : store.Asked words opened next) (concept : String) :
    store.asking concept ≤ next.asking concept := by
  obtain ⟨goals, hgoals, -, -⟩ := hasked.added
  rw [asking, asking, hgoals, List.countP_append]
  exact Nat.le_add_right _ _

theorem Unrepeated.append (hsingle : store.Unrepeated) {id : GoalId}
    (hnone : store.asking concept = 0) :
    (store.append (.toUnderstand concept id tick)).Unrepeated := by
  intro other
  rw [asking_append, Goal.asksFor_toUnderstand]
  by_cases hsame : concept = other
  · rw [← hsame, hnone, beq_self_eq_true]
    exact Nat.le_refl 1
  · rw [beq_false_of_ne hsame]
    exact hsingle other

theorem Asked.present {opened : List GoalId} {next : GoalStore}
    (hpos : 0 < store.asking (normalizeWord word)) (hrest : store.Asked words opened next) :
    store.Asked (word :: words) opened next where
  added := by
    obtain ⟨goals, hgoals, hids, hasks⟩ := hrest.added
    refine ⟨goals, hgoals, hids, fun g hg => ?_⟩
    obtain ⟨other, hother, hfor⟩ := hasks g hg
    exact ⟨other, List.mem_cons_of_mem word hother, hfor⟩
  kept := hrest.kept
  asked := List.forall_mem_cons.mpr
    ⟨Nat.lt_of_lt_of_le hpos (hrest.asking_le _), hrest.asked⟩
  idle := fun hall => hrest.idle (List.forall_mem_cons.mp hall).2

theorem Asked.opened {opened : List GoalId} {next : GoalStore}
    (hnone : store.asking (normalizeWord word) = 0)
    (hrest : (store.append (.toUnderstand (normalizeWord word) store.nextId tick)).Asked words
      opened next) :
    store.Asked (word :: words) (store.nextId :: opened) next := by
  have hnew : (Goal.toUnderstand (normalizeWord word) store.nextId tick).asksFor
      (normalizeWord word) = true := by
    rw [Goal.asksFor_toUnderstand, beq_self_eq_true]
  refine ⟨?_, fun hsingle => hrest.kept (hsingle.append hnone), ?_, fun hall => ?_⟩
  · obtain ⟨goals, hgoals, hids, hasks⟩ := hrest.added
    refine ⟨.toUnderstand (normalizeWord word) store.nextId tick :: goals, ?_, ?_, ?_⟩
    · rw [hgoals, GoalStore.append, List.append_assoc]
      rfl
    · rw [hids]
      rfl
    · refine List.forall_mem_cons.mpr ⟨⟨word, List.mem_cons_self, hnew⟩, fun g hg => ?_⟩
      obtain ⟨other, hother, hfor⟩ := hasks g hg
      exact ⟨other, List.mem_cons_of_mem word hother, hfor⟩
  · refine List.forall_mem_cons.mpr ⟨Nat.lt_of_lt_of_le ?_ (hrest.asking_le _), hrest.asked⟩
    rw [asking_append, hnone, hnew]
    exact Nat.one_pos
  · exact absurd (hall word List.mem_cons_self) (by omega)

theorem asked_inquire (hsettled : ∀ word ∈ words, IsSettled word) (store : GoalStore) (tick : Nat) :
    store.Asked words (store.inquire tick words).opened (store.inquire tick words).goals := by
  induction words generalizing store with
  | nil =>
      exact ⟨⟨[], (List.append_nil _).symm, rfl, List.forall_mem_nil _⟩, id, List.forall_mem_nil _,
        fun _ => ⟨rfl, rfl⟩⟩
  | cons word words ih =>
      obtain ⟨hword, hwords⟩ := List.forall_mem_cons.mp hsettled
      rw [inquire]
      have hcases := openUnderstanding_cases store word tick
      rw [hword] at hcases
      rcases hcases with ⟨g, hg, hasks, hopen⟩ | ⟨hnone, hopen⟩
      · rw [hopen]
        exact (ih hwords store).present (List.countP_pos_iff.mpr ⟨g, hg, hasks⟩)
      · rw [hopen]
        exact (ih hwords _).opened hnone

theorem Asked.asking_eq_one {opened : List GoalId} {next : GoalStore}
    (hasked : store.Asked words opened next) (hsingle : store.Unrepeated) :
    ∀ word ∈ words, next.asking (normalizeWord word) = 1 := fun word hword =>
  Nat.le_antisymm (hasked.kept hsingle _) (hasked.asked word hword)

theorem Reachable.inquire (hstore : store.Reachable) (tick : Nat) (words : List String) :
    (store.inquire tick words).goals.Reachable := by
  induction words generalizing store with
  | nil => exact hstore
  | cons word words ih => exact ih (.asked hstore word tick)

/-! ### Other goals, and closing -/

theorem asking_openGoal (store : GoalStore) (kind : GoalKind) (description : String)
    (condition : Action) (tick : Nat) (concept : String) :
    (store.openGoal kind description condition tick).2.asking concept = store.asking concept := by
  have hother : Goal.asksFor concept ⟨store.nextId, description, kind, none, condition, .active,
      tick⟩ = false := Bool.and_false _
  change (store.append _).asking concept = _
  rw [asking_append, hother]
  rfl

theorem asking_le_of_map {f : Goal → Goal} {next : GoalStore}
    (hnext : next.goals = store.goals.map f)
    (hclosed : ∀ g, (f g).asksFor concept = true → g.asksFor concept = true) :
    next.asking concept ≤ store.asking concept := by
  rw [asking, hnext, List.countP_map]
  exact List.countP_mono_left fun g _ => hclosed g

theorem asking_close_le (store : GoalStore) {status : GoalStatus} (hstatus : status ≠ .active)
    (id : GoalId) (concept : String) :
    (store.close id status).2.asking concept ≤ store.asking concept := by
  rw [GoalStore.close]
  split
  next =>
    refine asking_le_of_map (f := closed id status) rfl fun g hasks => ?_
    rw [closed] at hasks
    split at hasks
    next => simp [Goal.asksFor, Goal.isActive, hstatus] at hasks
    next => exact hasks
  next => exact Nat.le_refl _

/-- A tick closes active goals and does nothing else to any. -/
theorem Reachable.exists_after (hstore : store.Reachable) (scheduler : Scheduler)
    (lexicon : Lexicon) (w : World) :
    (scheduler.tick store lexicon w).goals.Reachable ∧
      ∃ told, (scheduler.tick store lexicon w).goals.goals = store.goals.map (Goal.after told) ∧
        ∀ g ∈ store.goals, g.isActive = false → g.after told = g := by
  obtain ⟨told, htold⟩ := Progress.accounted_foldl (p := ⟨store, scheduler.plans, w, []⟩)
    hstore.numbered (hstore.numbered.activeIds_ascending.imp Nat.ne_of_lt) (fun _ hid => hid) lexicon
  refine ⟨htold.reachable hstore, told, htold.goals, fun g hg hended => ?_⟩
  refine Goal.after_of_about_eq_nil (htold.silent fun hid => ?_)
  rw [hstore.numbered.isActive_of_mem hg hid] at hended
  cases hended

theorem Reachable.asking_tick_le (hstore : store.Reachable) (scheduler : Scheduler)
    (lexicon : Lexicon) (w : World) (concept : String) :
    (scheduler.tick store lexicon w).goals.asking concept ≤ store.asking concept := by
  obtain ⟨-, told, hafter, -⟩ := hstore.exists_after scheduler lexicon w
  refine asking_le_of_map hafter fun g hasks => ?_
  simp only [Goal.asksFor, Bool.and_eq_true] at hasks ⊢
  exact ⟨⟨Goal.isActive_of_after hasks.1.1, hasks.1.2⟩, hasks.2⟩

end GoalStore

end Apprentice
