import Apprentice.Proofs.Description.Candidate
import Apprentice.Proofs.Expr.Simple

/-!
# What a description reads

A description depends on an object through the attributes that occur in its conditions. One that
does not read the owner asks for none, so what is made for it belongs to nobody; and one that reads
neither owner nor position does not notice when an object is moved or handed over.
-/

namespace Apprentice

open Apprentice.Expr

variable {d : Description} {name : Option String} {blueprint : Blueprint} {field : Attribute}

namespace Description

def reads (d : Description) (field : Attribute) : Bool :=
  d.alternatives.any fun terms => terms.any fun t => t.predicate.root.reads field

theorem reads_of_mem {terms : List Term} {t : Term} (hterms : terms ∈ d.alternatives)
    (ht : t ∈ terms) (hreads : t.predicate.root.reads field = true) : d.reads field = true :=
  List.any_eq_true.mpr ⟨terms, hterms, List.any_eq_true.mpr ⟨t, ht, hreads⟩⟩

theorem fits_congr {o o' : Object}
    (hagree : ∀ field, d.reads field = true → field.valueIn o = field.valueIn o') :
    d.fits o = d.fits o' := by
  have hterm : ∀ terms ∈ d.alternatives, ∀ t ∈ terms, t.fits o = t.fits o' := by
    intro terms hterms t ht
    rw [Term.fits, Term.fits, Predicate.test_congr fun field hreads =>
      hagree field (reads_of_mem hterms ht hreads)]
  rw [fits, fits]
  congr 1
  rw [Bool.eq_iff_iff, List.any_eq_true, List.any_eq_true]
  refine exists_congr fun terms => and_congr_right fun hterms => ?_
  rw [List.all_eq_true, List.all_eq_true]
  exact forall₂_congr fun t ht => by rw [hterm terms hterms t ht]

end Description

/-! ### Attributes that nothing is asked of -/

theorem Constraint.Asks.reads {e : Expr} {cs : List Constraint} (hasks : Asks e cs)
    {value : Literal} (hmem : .equals field value ∈ cs) : e.reads field = true := by
  induction hasks with
  | always => cases hmem
  | both _ _ ihleft ihright =>
      rw [Expr.reads, Bool.or_eq_true]
      exact (List.mem_append.mp hmem).imp ihleft ihright
  | comparison hc =>
      obtain rfl := List.mem_singleton.mp hmem
      obtain ⟨-, rfl, -⟩ := ofComparison?_eq_equals hc
      simp [Expr.reads]
  | flipped _ hc =>
      obtain rfl := List.mem_singleton.mp hmem
      obtain ⟨-, rfl, -⟩ := ofComparison?_eq_equals hc
      simp [Expr.reads]
  | membership =>
      obtain ⟨rfl, -⟩ := Constraint.equals.inj (List.mem_singleton.mp hmem)
      simp [Expr.reads]

namespace Requirements

variable {r next : Requirements}

def Leaves (r : Requirements) (field : Attribute) : Prop :=
  ∀ required ∈ r.values, required.field ≠ field

theorem Leaves.value? (hleaves : r.Leaves field) : r.value? field = none := by
  rw [Requirements.value?, List.find?_eq_none]
  intro required hrequired
  simpa using hleaves required hrequired

theorem Leaves.setValue (hleaves : r.Leaves field) {required : RequiredValue}
    (hne : required.field ≠ field) : (r.setValue required).Leaves field := by
  refine List.forall_mem_cons.mpr ⟨hne, fun other hother => ?_⟩
  exact hleaves other (List.mem_filter.mp hother).1

theorem Leaves.add (hleaves : r.Leaves field) {word : String} {c : Constraint}
    (hc : ∀ value, c ≠ .equals field value) (hok : r.add word c = .ok next) :
    next.Leaves field := by
  unfold Requirements.add at hok
  split at hok
  next => cases hok; exact hleaves
  next => cases hok; exact hleaves
  next =>
    split at hok
    next =>
      split at hok
      next => cases hok; exact hleaves
      next => cases hok
    next => cases hok; exact hleaves
  next => cases hok; exact hleaves
  next other value _ _ =>
    have hne : other ≠ field := by
      rintro rfl
      exact hc value rfl
    split at hok
    next =>
      split at hok
      next => cases hok; exact hleaves.setValue hne
      next => cases hok
    next => cases hok; exact hleaves.setValue hne

theorem Leaves.addTerm (hleaves : r.Leaves field) {t : Term}
    (hreads : t.predicate.root.reads field = false) (hok : r.addTerm t = .ok next) :
    next.Leaves field := by
  unfold Requirements.addTerm at hok
  split at hok
  next => cases hok; exact hleaves
  next =>
    split at hok
    next => cases hok; exact hleaves
    next cs hcs =>
      have hasks : ∀ c ∈ cs, ∀ value, c ≠ .equals field value := by
        rintro c hc value rfl
        have hread := (Predicate.asks_of_constraints? hcs).2.reads hc
        rw [hreads] at hread
        cases hread
      exact foldlM_preserves (P := (Leaves · field))
        (fun _ hb c hc _ hadd => hb.add (hasks c hc) hadd) hleaves hok

theorem leaves_ofTerms {terms : List Term}
    (hreads : ∀ t ∈ terms, t.predicate.root.reads field = false)
    (hok : ofTerms terms = .ok r) : r.Leaves field :=
  foldlM_preserves (P := (Leaves · field))
    (fun _ hb t ht _ hadd => hb.addTerm (hreads t ht) hadd)
    (fun _ hrequired => absurd hrequired List.not_mem_nil) hok

theorem blueprint_eq_ok (hok : r.blueprint name = .ok blueprint) :
    (∀ given, name = some given → blueprint.name = some given) ∧
      (r.Leaves .owner → blueprint.owner = none) := by
  rw [Requirements.blueprint] at hok
  obtain ⟨size, -, hok⟩ := bind_eq_ok hok
  obtain ⟨owner, howner, hok⟩ := bind_eq_ok hok
  cases hok
  refine ⟨fun given hgiven => by rw [hgiven]; rfl, fun hleaves => ?_⟩
  rw [chosenOwner, hleaves.value?] at howner
  exact (Except.ok.inj howner).symm

end Requirements

namespace Description

theorem synthesize_eq_ok (hok : d.synthesize name = .ok blueprint) :
    (d.isEmpty = true ∧ blueprint = { name := name }) ∨
      ∃ terms ∈ d.alternatives, synthesizeConjunction terms name = .ok blueprint ∧
        ∃ r, Requirements.ofTerms terms = .ok r ∧ r.blueprint name = .ok blueprint := by
  rw [synthesize] at hok
  split at hok
  next hempty =>
    cases hok
    exact .inl ⟨hempty, rfl⟩
  next =>
    obtain ⟨terms, hterms, hmade⟩ := synthesizeFirst_eq_ok hok
    refine .inr ⟨terms, hterms, hmade, ?_⟩
    rw [synthesizeConjunction] at hmade
    obtain ⟨r, hr, hmade⟩ := bind_eq_ok hmade
    obtain ⟨made, hblueprint, hmade⟩ := bind_eq_ok hmade
    have hsame : made = blueprint := by
      change (if _ then _ else _) = _ at hmade
      split at hmade
      next => exact Except.ok.inj hmade
      next =>
        split at hmade
        next => cases hmade
        next => cases hmade
    subst hsame
    exact ⟨r, mapError_eq_ok hr, mapError_eq_ok hblueprint⟩

theorem name_of_synthesize {given : String} (hok : d.synthesize (some given) = .ok blueprint) :
    blueprint.name = some given := by
  rcases synthesize_eq_ok hok with ⟨-, rfl⟩ | ⟨_, -, -, r, -, hblueprint⟩
  · rfl
  · exact (Requirements.blueprint_eq_ok hblueprint).1 given rfl

/-- Nothing that is made belongs to somebody unless the description reads the owner. -/
theorem owner_of_synthesize (hreads : d.reads .owner = false)
    (hok : d.synthesize name = .ok blueprint) : blueprint.owner = none := by
  rcases synthesize_eq_ok hok with ⟨-, rfl⟩ | ⟨terms, hterms, -, r, hr, hblueprint⟩
  · rfl
  · refine (Requirements.blueprint_eq_ok hblueprint).2 (Requirements.leaves_ofTerms ?_ hr)
    intro t ht
    by_contra hread
    have howner := reads_of_mem hterms ht (Bool.not_eq_false _ ▸ hread)
    rw [hreads] at howner
    cases howner

/-- What is made under a given name is as the candidate was, unless the description reads the
position. -/
theorem madeAsTried_of_given (hreads : d.reads .position = false) (given : String) (w : World) :
    d.MadeAsTried (some given) w := by
  intro blueprint cell hok _
  rcases synthesize_eq_ok hok with ⟨hempty, -⟩ | ⟨terms, hterms, hmade, -⟩
  · exact .inl hempty
  · refine .inr ⟨terms, hterms, hmade, fun t ht => ?_⟩
    rintro (⟨hread, -⟩ | ⟨-, hnone⟩)
    · have hposition := reads_of_mem hterms ht hread
      rw [hreads] at hposition
      cases hposition
    · rw [name_of_synthesize hok] at hnone
      cases hnone

end Description

end Apprentice
