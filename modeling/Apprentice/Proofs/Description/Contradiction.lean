import Apprentice.Proofs.Description.Requirements

/-!
# What a contradiction says

A description that is called contradictory should fit no object. That is so for every object that
the words are read rightly for. A list of values is read as its first item: an object with a later
item is then misread, and so is an object for which the items of a negated list have no value. Those
are the only objects that a contradictory description may fit.
-/

namespace Apprentice

open Apprentice.Expr

variable {o : Object} {name : Option String}

/-- Whether a list in a term is read otherwise than an object satisfies it: by another item than the
first, or, in a negated term, not at all. -/
def Term.Misreads (t : Term) (o : Object) : Prop :=
  ∃ field first rest, t.predicate.root.Lists field first rest ∧
    ((t.negated = false ∧ field.valueIn o ≠ first.value) ∨
      (t.negated = true ∧ ∃ reason, evalItems (.single o) rest = .error reason))

theorem Term.fits_eq_true {t : Term} :
    t.fits o = true ↔ t.predicate.test o = !t.negated := by
  rw [Term.fits, bne_iff_ne]
  cases t.predicate.test o <;> cases t.negated <;> decide

theorem Term.askedBy {t : Term} (hfits : t.fits o = true) (hread : ¬ t.Misreads o) :
    Requirements.AskedBy o t := by
  intro hnegated cs hcs
  have htest : t.predicate.test o = true := by
    rw [Term.fits_eq_true.mp hfits, hnegated]
    rfl
  refine (Predicate.asks_of_constraints? hcs).2.holds (Predicate.test_eq_true.mp htest) ?_
  intro field first rest hlists
  by_contra hother
  exact hread ⟨field, first, rest, hlists, .inl ⟨hnegated, hother⟩⟩

theorem Requirements.Met.not_ruleOut {r : Requirements} (hmet : r.Met o) {t : Term}
    (htype : typeOf .unary t.predicate.root = .ok .bool) (hfits : t.fits o = true)
    (hread : ¬ t.Misreads o) : r.ruleOut t = false := by
  by_contra hrules
  obtain ⟨hnegated, -, hforce⟩ :
      t.negated = true ∧ t.word ∉ r.unbuilt ∧ r.force t.predicate = true := by
    simpa [ruleOut] using hrules
  obtain ⟨cs, hcs, hequals⟩ := hmet.of_force hforce
  have htest : t.predicate.test o = false := by
    rw [Term.fits_eq_true.mp hfits, hnegated]
    rfl
  rcases (Predicate.asks_of_constraints? hcs).2.eval_eq_true htype hequals with
    heval | ⟨field, first, rest, reason, hlists, hfails⟩
  · rw [Predicate.test_eq_true.mpr heval] at htest
    cases htest
  · exact hread ⟨field, first, rest, hlists, .inr ⟨hnegated, reason, hfails⟩⟩

/-- There is no conflict in an alternative that fits an object, if none of its lists is misread. -/
theorem synthesizeConjunction_ne_contradiction {terms : List Term}
    (htype : ∀ t ∈ terms, typeOf .unary t.predicate.root = .ok .bool)
    (hfits : ∀ t ∈ terms, t.fits o = true) (hread : ∀ t ∈ terms, ¬ t.Misreads o)
    (conflicts : List Conflict) :
    synthesizeConjunction terms name ≠ .error (.contradiction conflicts) := by
  intro hcontradiction
  obtain ⟨r, hr, hmet⟩ := Requirements.met_ofTerms fun t ht => t.askedBy (hfits t ht) (hread t ht)
  obtain ⟨blueprint, hblueprint⟩ := hmet.exists_blueprint name
  rw [synthesizeConjunction, hr] at hcontradiction
  change (((r.blueprint name).mapError _) >>= _) = _ at hcontradiction
  rw [hblueprint] at hcontradiction
  change (if _ then _ else _) = _ at hcontradiction
  split at hcontradiction
  next => cases hcontradiction
  next =>
    split at hcontradiction
    next t hfind =>
      have hmem : t ∈ terms := (List.mem_filter.mp (List.mem_of_find?_eq_some hfind)).1
      have hrules := hmet.not_ruleOut (htype t hmem) (hfits t hmem) (hread t hmem)
      exact absurd (hrules.symm.trans (List.find?_some hfind)) Bool.false_ne_true
    next => cases hcontradiction

theorem synthesizeFirst_eq_contradiction {alternatives : List (List Term)}
    {conflicts : List Conflict}
    (hcontradiction : synthesizeFirst name alternatives = .error (.contradiction conflicts)) :
    ∀ terms ∈ alternatives, ∃ own,
      synthesizeConjunction terms name = .error (.contradiction own) := by
  induction alternatives generalizing conflicts with
  | nil =>
      intro terms hterms
      cases hterms
  | cons first alternatives ih =>
      rw [synthesizeFirst] at hcontradiction
      split at hcontradiction
      next => cases hcontradiction
      next reason hreason =>
        split at hcontradiction
        next => cases hcontradiction
        next => cases hcontradiction
        next => cases hcontradiction
        next later own hlater =>
          refine List.forall_mem_cons.mpr ⟨⟨own, hreason⟩, ih hlater⟩

/-- A contradictory description fits exactly the objects that fit an alternative in which a list is
misread; without lists it fits none. -/
theorem Description.fits_iff_of_contradiction {d : Description} {conflicts : List Conflict}
    (hcompiled : ∀ terms ∈ d.alternatives, ∀ t ∈ terms,
      ∃ source, Predicate.compile .unary source = .ok t.predicate)
    (hcontradiction : d.synthesize name = .error (.contradiction conflicts)) (o : Object) :
    d.fits o = true ↔ ∃ terms ∈ d.alternatives,
      (∀ t ∈ terms, t.fits o = true) ∧ ∃ t ∈ terms, t.Misreads o := by
  unfold Description.synthesize at hcontradiction
  split at hcontradiction
  next => cases hcontradiction
  next hsome =>
    have hfits : d.fits o = true ↔ ∃ terms ∈ d.alternatives, ∀ t ∈ terms, t.fits o = true := by
      simp [Description.fits, hsome]
    rw [hfits]
    constructor
    · rintro ⟨terms, hterms, hall⟩
      refine ⟨terms, hterms, hall, ?_⟩
      by_contra hread
      push Not at hread
      obtain ⟨own, hown⟩ := synthesizeFirst_eq_contradiction hcontradiction terms hterms
      refine synthesizeConjunction_ne_contradiction (fun t ht => ?_) hall hread own hown
      obtain ⟨source, hsource⟩ := hcompiled terms hterms t ht
      exact (Predicate.compile_eq_ok hsource).2
    · rintro ⟨terms, hterms, hall, -⟩
      exact ⟨terms, hterms, hall⟩

/-- A blue object fits `warm` and `blue`, which are called contradictory because `warm` is read as
red. -/
theorem Description.fits_iff_of_contradiction_blue :
    let warm : Expr := .binary .isIn (.attr .obj .color)
      (.list [.literal (.str "red"), .literal (.str "blue")])
    let blue : Expr := .binary .eq (.attr .obj .color) (.literal (.str "blue"))
    let d : Description := ⟨[[⟨"warm", false, ⟨.unary, warm, "obj.color in ['red', 'blue']"⟩⟩,
      ⟨"blue", false, ⟨.unary, blue, "obj.color == 'blue'"⟩⟩]]⟩
    let o : Object := ⟨1, "lake", "pool", "blue", 5, "water", none, .world⟩
    (∀ terms ∈ d.alternatives, ∀ t ∈ terms,
      ∃ source, Predicate.compile .unary source = .ok t.predicate) ∧
    d.synthesize none = .error (.contradiction
      [.values .color (.str "red") "warm" (.str "blue") "blue"]) ∧
    d.fits o = true ∧ ∃ terms ∈ d.alternatives, ∃ t ∈ terms, t.Misreads o := by
  intro warm blue d o
  have hwarm : Predicate.compile .unary "obj.color in ['red', 'blue']" =
      .ok ⟨.unary, warm, "obj.color in ['red', 'blue']"⟩ := by
    have htokens : tokenize "obj.color in ['red', 'blue']" = .ok [⟨.ident "obj", 0⟩, ⟨.dot, 3⟩,
        ⟨.ident "color", 4⟩, ⟨.ident "in", 10⟩, ⟨.openBracket, 13⟩, ⟨.str "red", 14⟩, ⟨.comma, 19⟩,
        ⟨.str "blue", 21⟩, ⟨.closeBracket, 27⟩] := by
      decide +kernel
    exact Predicate.compile_of_parse (n := 28) htokens rfl (by cbv) rfl (by decide +kernel)
  have hblue : Predicate.compile .unary "obj.color == 'blue'" =
      .ok ⟨.unary, blue, "obj.color == 'blue'"⟩ := by
    have htokens : tokenize "obj.color == 'blue'" = .ok [⟨.ident "obj", 0⟩, ⟨.dot, 3⟩,
        ⟨.ident "color", 4⟩, ⟨.eqEq, 10⟩, ⟨.str "blue", 13⟩] := by
      decide +kernel
    exact Predicate.compile_of_parse (n := 19) htokens rfl (by cbv) rfl (by decide +kernel)
  have hcompiled : ∀ terms ∈ d.alternatives, ∀ t ∈ terms,
      ∃ source, Predicate.compile .unary source = .ok t.predicate := by
    refine List.forall_mem_singleton.mpr ?_
    refine List.forall_mem_cons.mpr ⟨⟨_, hwarm⟩, ?_⟩
    exact List.forall_mem_singleton.mpr ⟨_, hblue⟩
  have hcontradiction : d.synthesize none = .error (.contradiction
      [.values .color (.str "red") "warm" (.str "blue") "blue"]) := by
    decide +kernel
  have hfits : d.fits o = true := by decide +kernel
  obtain ⟨terms, hterms, -, hmisreads⟩ :=
    (Description.fits_iff_of_contradiction hcompiled hcontradiction o).mp hfits
  exact ⟨hcompiled, hcontradiction, hfits, terms, hterms, hmisreads⟩

end Apprentice
