import Apprentice.Proofs.Goal.Lifecycle
import Apprentice.Proofs.Lexicon.NormalForm
import Apprentice.Proofs.Text.Ends

/-!
# Words that are asked for again

When a word is asked for, a goal is searched for that is to understand what the word becomes when it
is put into normal form twice; the goal that is opened if there is none is to understand what the
word becomes by once. As long as this is the same, the goal is found again, and no other goal is to
understand the same, whatever else is asked for. If it is not the same, the goal is not found, and
each time that the word is asked for there is one more goal for it.
-/

namespace Apprentice

theorem isSettled_of_ascii {word : String} (hascii : ∀ c ∈ word.toList, Text.isAscii c = true) :
    IsSettled word := by
  have hnormal := normalizeWord_ascii hascii
  have htrim : Text.trim (normalizeWord word).toList = (normalizeWord word).toList := by
    have htrimmed : ∀ c ∈ Text.trim word.toList, Text.isAscii c = true := fun c hc =>
      hascii c ((Text.trim_sublist word.toList).subset hc)
    rw [normalizeWord, String.toList_ofList, Text.canonical_of_ascii htrimmed,
      Text.trim_lower_eq_self_iff, Text.trim_trim]
  rw [IsSettled, ← String.toList_inj]
  conv_lhs => rw [normalizeWord, String.toList_ofList]
  rw [htrim, Text.canonical_of_ascii fun c hc => (hnormal c hc).1, Text.lower,
    Text.lowerAfter_of_plain fun c hc => (hnormal c hc).2]

namespace GoalStore

variable {store later : GoalStore} {g h : Goal} {word concept : String} {tick : Nat}

/-! ### One goal for a concept -/

/-- A change leads to no second goal for a concept in normal form. -/
theorem Reachable.asking_apply_le_one (hstore : store.Reachable)
    (hconcept : normalizeWord concept = concept) (hone : store.asking concept ≤ 1)
    (change : Change) : (store.apply change).asking concept ≤ 1 := by
  cases change with
  | opened kind description condition tick => exact (asking_openGoal ..).trans_le hone
  | asked word tick =>
      rw [GoalStore.apply]
      rcases openUnderstanding_cases store word tick with ⟨g, -, -, hopen⟩ | ⟨hnone, hopen⟩
      · rw [hopen]
        exact hone
      · rw [hopen, asking_append, Goal.asksFor_toUnderstand]
        by_cases hword : normalizeWord word = concept
        · -- the goal that is opened is for what was searched for
          rw [hword, hconcept] at hnone
          rw [hnone]
          split <;> decide
        · rw [beq_false_of_ne hword]
          exact hone
  | completed id => exact (asking_close_le _ GoalStatus.noConfusion id _).trans hone
  | failed id reason => exact (asking_close_le _ GoalStatus.noConfusion id _).trans hone
  | cancelled id => exact (asking_close_le _ GoalStatus.noConfusion id _).trans hone
  | ticked scheduler lexicon world =>
      exact (hstore.asking_tick_le scheduler lexicon world concept).trans hone

theorem Reachable.asking_foldl_le_one (hstore : store.Reachable)
    (hconcept : normalizeWord concept = concept) (hone : store.asking concept ≤ 1)
    (changes : List Change) : (changes.foldl GoalStore.apply store).asking concept ≤ 1 := by
  induction changes generalizing store with
  | nil => exact hone
  | cons change changes ih =>
      exact ih (hstore.apply change) (hstore.asking_apply_le_one hconcept hone change)

theorem asking_ofChanges_le_one (hconcept : normalizeWord concept = concept)
    (changes : List Change) : (ofChanges changes).asking concept ≤ 1 :=
  Reachable.empty.asking_foldl_le_one hconcept (Nat.zero_le 1) changes

theorem eq_of_asking_le_one (hone : store.asking concept ≤ 1) (hg : g ∈ store.goals)
    (hgasks : g.asksFor concept = true) (hh : h ∈ store.goals) (hhasks : h.asksFor concept = true) :
    g = h := by
  rw [asking, List.countP_eq_length_filter] at hone
  have hg : g ∈ store.goals.filter (Goal.asksFor concept) := List.mem_filter.mpr ⟨hg, hgasks⟩
  have hh : h ∈ store.goals.filter (Goal.asksFor concept) := List.mem_filter.mpr ⟨hh, hhasks⟩
  cases hfilter : store.goals.filter (Goal.asksFor concept) with
  | nil =>
      rw [hfilter] at hg
      cases hg
  | cons only others =>
      rw [hfilter, List.length_cons] at hone
      have hothers : others = [] := List.length_eq_zero_iff.mp (by omega)
      rw [hfilter, hothers, List.mem_singleton] at hg hh
      exact hg.trans hh.symm

/-! ### The goal that was opened -/

theorem openUnderstanding_of_asked (hsettled : IsSettled word)
    (hone : store.asking (normalizeWord word) ≤ 1) (hg : g ∈ store.goals)
    (hasks : g.asksFor (normalizeWord word) = true) (tick : Nat) :
    store.openUnderstanding word tick = (g.id, false, store) ∧
      (store.activeUnderstanding? word).map Goal.id = some g.id := by
  constructor
  · rcases openUnderstanding_cases store word tick with ⟨h, hh, hhasks, hopen⟩ | ⟨hnone, -⟩
    · rw [hsettled] at hhasks
      rw [hopen, eq_of_asking_le_one hone hh hhasks hg hasks]
    · rw [hsettled] at hnone
      cases (List.countP_eq_zero.mp hnone g hg) hasks
  · change (store.goals.find? (Goal.asksFor (normalizeWord word))).map Goal.id = _
    cases hfind : store.goals.find? (Goal.asksFor (normalizeWord word)) with
    | none => cases (List.find?_eq_none.mp hfind g hg) hasks
    | some h =>
        rw [eq_of_asking_le_one hone (List.mem_of_find?_eq_some hfind) (List.find?_some hfind) hg
          hasks]
        rfl

theorem Continues.exists_asking (hcontinues : store.Continues later) (hstore : store.Numbered)
    (hlater : later.Numbered) (hg : g ∈ store.goals) (hasks : g.asksFor concept = true)
    (hactive : later.isActive g.id = true) :
    ∃ h ∈ later.goals, h.id = g.id ∧ h.asksFor concept = true := by
  obtain ⟨h, hh, hbecomes⟩ := hcontinues.exists_get? hlater (hstore.get?_of_mem hg)
  obtain ⟨hmem, hid⟩ := mem_of_get? hh
  have hkind : h.kind = g.kind := by rw [hbecomes.same]
  have hconcept : h.concept = g.concept := by rw [hbecomes.same]
  rw [isActive, hh, Option.any_some] at hactive
  refine ⟨h, hmem, hid, ?_⟩
  simp only [Goal.asksFor, Bool.and_eq_true] at hasks ⊢
  rw [hkind, hconcept]
  exact ⟨⟨hactive, hasks.1.2⟩, hasks.2⟩

/-- A word whose normal form is not its own normal form gets one more goal each time. -/
theorem asking_of_unsettled (hunsettled : ¬IsSettled word)
    (hnone : store.asking (normalizeWord (normalizeWord word)) = 0) (tick : Nat) :
    store.openUnderstanding word tick = (store.nextId, true,
        store.append (.toUnderstand (normalizeWord word) store.nextId tick)) ∧
      (store.openUnderstanding word tick).2.2.asking (normalizeWord (normalizeWord word)) = 0 ∧
      (store.openUnderstanding word tick).2.2.asking (normalizeWord word) =
        store.asking (normalizeWord word) + 1 := by
  rcases openUnderstanding_cases store word tick with ⟨g, hg, hasks, -⟩ | ⟨-, hopen⟩
  · cases (List.countP_eq_zero.mp hnone g hg) hasks
  · have hother : (normalizeWord word == normalizeWord (normalizeWord word)) = false :=
      beq_false_of_ne fun heq => hunsettled heq.symm
    refine ⟨hopen, ?_, ?_⟩
    · rw [hopen, asking_append, Goal.asksFor_toUnderstand, hother, hnone]
      rfl
    · rw [hopen, asking_append, Goal.asksFor_toUnderstand, beq_self_eq_true]
      rfl

/-- Whatever happened, there is at most one active goal for a concept in normal form. What a word is
asked for with is returned again, without a new goal, as long as it is active, if the normal form of
the word is its own normal form; if not, and if what that is has not been asked for, the word is
asked for by another goal with the same concept the second time. -/
theorem asked_once (changes more : List Change) (word : String) (tick later : Nat) :
    let store := ofChanges changes
    let asked := store.openUnderstanding word tick
    let again := asked.2.2.openUnderstanding word later
    let last := ofChanges (changes ++ .asked word tick :: more)
    (∀ concept, normalizeWord concept = concept → last.asking concept ≤ 1) ∧
      (IsSettled word → last.isActive asked.1 = true →
        last.openUnderstanding word later = (asked.1, false, last) ∧
          (last.activeUnderstanding? word).map Goal.id = some asked.1) ∧
      (¬IsSettled word → store.asking (normalizeWord (normalizeWord word)) = 0 →
        asked.2.1 = true ∧ again.2.1 = true ∧ 2 ≤ again.2.2.asking (normalizeWord word)) := by
  intro store asked again last
  refine ⟨fun concept hconcept => asking_ofChanges_le_one hconcept _, ?_, ?_⟩
  · intro hsettled hactive
    have hreachable : (store.apply (.asked word tick)).Reachable :=
      (Reachable.empty.foldl_apply changes).apply _
    have hlast : last = more.foldl GoalStore.apply (store.apply (.asked word tick)) :=
      List.foldl_append
    obtain ⟨g, hg, hid, hasks⟩ := store.exists_opened word tick
    rw [hsettled, or_self] at hasks
    rw [← hid] at hactive
    obtain ⟨h, hh, hsame, hhasks⟩ :=
      (hlast ▸ hreachable.continues more : Continues _ last).exists_asking hreachable.numbered
        (Reachable.empty.foldl_apply _).numbered hg hasks hactive
    rw [show asked.1 = h.id from (hsame.trans hid).symm]
    exact openUnderstanding_of_asked hsettled (asking_ofChanges_le_one hsettled _) hh hhasks later
  · intro hunsettled hnone
    obtain ⟨hopened, hstill, -⟩ := asking_of_unsettled hunsettled hnone tick
    obtain ⟨hagain, -, hmore⟩ := asking_of_unsettled hunsettled hstill later
    refine ⟨by rw [show asked = _ from hopened], by rw [show again = _ from hagain], ?_⟩
    rw [show again.2.2.asking _ = _ from hmore,
      (asking_of_unsettled hunsettled hnone tick).2.2]
    exact Nat.le_add_left 2 _

/-- The goal for a word is found again in capitals and after other goals; a second goal is opened
for a word that has another normal form after its own. -/
theorem asked_once_ball :
    let before : List Change := [.asked " Ball" 0, .cancelled 1]
    let store := ofChanges (before ++ .asked "BALL" 1 :: [.asked "cube" 2, .completed 3])
    let asked := (ofChanges before).openUnderstanding "BALL" 1
    let unsettled := "\u0386\u0345"
    let again := ((ofChanges []).openUnderstanding unsettled 0).2.2.openUnderstanding unsettled 1
    (normalizeWord "ball" = "ball" ∧ store.asking "ball" ≤ 1) ∧
      (IsSettled "BALL" ∧ store.isActive asked.1 = true ∧
        store.openUnderstanding "BALL" 3 = (asked.1, false, store)) ∧
      (¬IsSettled unsettled ∧ (ofChanges []).asking (normalizeWord (normalizeWord unsettled)) = 0 ∧
        again.2.1 = true ∧ 2 ≤ again.2.2.asking (normalizeWord unsettled)) := by
  have hnormal : normalizeWord "ball" = "ball" := by decide +kernel
  have hsettled : IsSettled "BALL" := by decide +kernel
  have hunsettled : ¬IsSettled "\u0386\u0345" := by decide +kernel
  have hnone : (ofChanges []).asking (normalizeWord (normalizeWord "\u0386\u0345")) = 0 := by
    decide +kernel
  obtain ⟨hone, hfound, -⟩ := asked_once [.asked " Ball" 0, .cancelled 1]
    [.asked "cube" 2, .completed 3] "BALL" 1 3
  have hactive : (ofChanges [.asked " Ball" 0, .cancelled 1, .asked "BALL" 1, .asked "cube" 2,
      .completed 3]).isActive 2 = true := by
    decide +kernel
  have hagain := (asked_once [] [] "\u0386\u0345" 0 1).2.2 hunsettled hnone
  exact ⟨⟨hnormal, hone "ball" hnormal⟩, ⟨hsettled, hactive, (hfound hsettled hactive).1⟩,
    hunsettled, hnone, hagain.2⟩

end GoalStore

end Apprentice
