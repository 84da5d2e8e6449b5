import Apprentice.Lexicon.Basic

/-!
# The block of a prefix

The words that start with a text stand together in ascending order, right behind everything that is
below the text. So the scan that begins at the first word that is not below the text, and ends at
the first one that does not start with it, meets all of them and nothing else.
-/

namespace Apprentice

variable {α : Type} {start first word : List Char}

/-! ### Order and prefixes -/

theorem not_lt_of_starts (hstarts : start <+: word) : ¬ word < start := by
  induction start generalizing word with
  | nil => exact List.not_lt_nil word
  | cons c cs ih =>
    obtain ⟨rest, rfl⟩ := hstarts
    rw [List.cons_append, List.cons_lt_cons_iff]
    rintro (hlt | ⟨-, hlt⟩)
    · exact Char.lt_irrefl c hlt
    · exact ih ⟨rest, rfl⟩ hlt

/-- Whatever stands between a text and a word that starts with it starts with it as well. -/
theorem prefix_of_between (hstart : ¬ first < start) (hlt : first < word)
    (hstarts : start <+: word) : start <+: first := by
  induction start generalizing first word with
  | nil => exact List.nil_prefix
  | cons c cs ih =>
    obtain ⟨rest, rfl⟩ := hstarts
    cases first with
    | nil => exact absurd (List.nil_lt_cons c cs) hstart
    | cons d ds =>
      rw [List.cons_append, List.cons_lt_cons_iff] at hlt
      rw [List.cons_lt_cons_iff, not_or] at hstart
      obtain hlt | ⟨rfl, hlt⟩ := hlt
      · exact absurd hlt hstart.1
      · exact List.cons_prefix_cons.mpr
          ⟨rfl, ih (fun hbelow => hstart.2 ⟨rfl, hbelow⟩) hlt ⟨rest, rfl⟩⟩

/-! ### Runs of a list -/

/-- A run ends with the last element of its kind, if no other element stands before one of them. -/
theorem takeWhile_eq_filter {p : α → Bool} {xs : List α}
    (hrun : xs.Pairwise fun x y => p y = true → p x = true) : xs.takeWhile p = xs.filter p := by
  induction xs with
  | nil => rfl
  | cons x xs ih =>
    obtain ⟨hx, hxs⟩ := List.pairwise_cons.mp hrun
    by_cases hp : p x = true
    · rw [List.takeWhile_cons_of_pos hp, List.filter_cons_of_pos hp, ih hxs]
    · have hnone : xs.filter p = [] :=
        List.filter_eq_nil_iff.mpr fun y hy hpy => hp (hx y hy hpy)
      rw [List.takeWhile_cons_of_neg hp, List.filter_cons_of_neg hp, hnone]

theorem filter_dropWhile {p below : α → Bool} {xs : List α}
    (hbelow : ∀ x ∈ xs, p x = true → below x = false) :
    (xs.dropWhile below).filter p = xs.filter p := by
  induction xs with
  | nil => rfl
  | cons x xs ih =>
    obtain ⟨hx, hxs⟩ := List.forall_mem_cons.mp hbelow
    by_cases hb : below x = true
    · have hp : ¬ p x = true := fun hp => Bool.false_ne_true ((hx hp).symm.trans hb)
      rw [List.dropWhile_cons_of_pos hb, List.filter_cons_of_neg hp, ih hxs]
    · rw [List.dropWhile_cons_of_neg hb]

theorem dropWhile_of_ascending {below : α → Bool} {xs : List α}
    (hascending : xs.Pairwise fun x y => below y = true → below x = true) :
    ∀ x ∈ xs.dropWhile below, below x = false := by
  induction xs with
  | nil => exact fun x hx => absurd hx List.not_mem_nil
  | cons x xs ih =>
    obtain ⟨hx, hxs⟩ := List.pairwise_cons.mp hascending
    by_cases hb : below x = true
    · rw [List.dropWhile_cons_of_pos hb]
      exact ih hxs
    · rw [List.dropWhile_cons_of_neg hb]
      refine List.forall_mem_cons.mpr ⟨Bool.eq_false_iff.mpr hb, fun y hy => ?_⟩
      exact Bool.eq_false_iff.mpr fun hy' => hb (hx y hy hy')

/-! ### The words with a prefix -/

/-- The scan gives back exactly the entries whose words start with the normal form, in order. -/
theorem Lexicon.withPrefix_eq (lexicon : Lexicon) (text : String) :
    lexicon.withPrefix text = lexicon.entries.filter fun e =>
      (normalizeWord text).toList.isPrefixOf e.word.toList := by
  let start := normalizeWord text
  let below (e : Entry) : Bool := decide (e.word < start)
  let starts (e : Entry) : Bool := start.toList.isPrefixOf e.word.toList
  have habove : ∀ e ∈ lexicon.entries.dropWhile below, below e = false := by
    refine dropWhile_of_ascending (lexicon.sorted.imp fun hlt hbelow => ?_)
    exact decide_eq_true (String.lt_trans hlt (of_decide_eq_true hbelow))
  have hrun : (lexicon.entries.dropWhile below).Pairwise fun first later =>
      starts later = true → starts first = true := by
    have hsorted := lexicon.sorted.sublist (List.dropWhile_sublist below)
    refine hsorted.imp_of_mem fun {first later} hfirst _ hlt hlater => ?_
    exact List.isPrefixOf_iff_prefix.mpr (prefix_of_between
      (of_decide_eq_false (habove first hfirst)) hlt (List.isPrefixOf_iff_prefix.mp hlater))
  have hlost : ∀ e ∈ lexicon.entries, starts e = true → below e = false := fun e _ hstarts =>
    decide_eq_false (not_lt_of_starts (List.isPrefixOf_iff_prefix.mp hstarts))
  calc lexicon.withPrefix text
      = (lexicon.entries.dropWhile below).takeWhile starts := rfl
    _ = (lexicon.entries.dropWhile below).filter starts := takeWhile_eq_filter hrun
    _ = lexicon.entries.filter starts := filter_dropWhile hlost

end Apprentice
