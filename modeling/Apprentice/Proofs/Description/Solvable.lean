import Apprentice.Proofs.Description.Contradiction
import Apprentice.Proofs.Description.Reads

/-!
# What can be made

Of words that are not negated, and whose conditions compare attributes with literals, but neither
positions nor with lists, an object can be made whenever there is one at all. What these words
require is kept entirely: an object that meets what was gathered meets everything that was asked
for. And the candidate meets what was gathered as soon as any object does, because it has the values
that are required, whatever it has otherwise.
-/

namespace Apprentice

open Apprentice.Expr

/-- Whether a term is one that can be solved: it is not negated, and its condition is a conjunction
of comparisons with literals, neither of positions nor with lists. -/
structure Term.Solvable (t : Term) : Prop where
  affirmed : t.negated = false
  simple : t.predicate.constraints?.isSome = true
  listless : t.predicate.root.uses .isIn = false
  placeless : t.predicate.root.reads .position = false

instance (t : Term) : Decidable t.Solvable :=
  decidable_of_iff (t.negated = false ∧ t.predicate.constraints?.isSome = true ∧
    t.predicate.root.uses .isIn = false ∧ t.predicate.root.reads .position = false)
    ⟨fun ⟨h₁, h₂, h₃, h₄⟩ => ⟨h₁, h₂, h₃, h₄⟩, fun h => ⟨h.1, h.2, h.3, h.4⟩⟩

variable {o : Object} {t : Term} {terms : List Term} {name : Option String} {blueprint : Blueprint}

namespace Requirements

variable {r next last : Requirements} {word : String} {c : Constraint} {field : Attribute}

/-! ### Nothing is lost -/

/-- Whether at most one value is required of each attribute, and none of a position, nor a number of
the size, which is kept apart. -/
structure Orderly (r : Requirements) : Prop where
  distinct : (r.values.map RequiredValue.field).Nodup
  placeless : ∀ required ∈ r.values, required.field ≠ .position
  sizeless : ∀ required ∈ r.values, required.field = .size → ∀ n, required.value ≠ .int n

theorem orderly_nothing : ({} : Requirements).Orderly where
  distinct := List.nodup_nil
  placeless := List.forall_mem_nil _
  sizeless := List.forall_mem_nil _

theorem Orderly.value? (horderly : r.Orderly) {required : RequiredValue}
    (hmem : required ∈ r.values) : r.value? required.field = some required := by
  have hdistinct := horderly.distinct
  rw [Requirements.value?]
  generalize r.values = values at hmem hdistinct
  induction values with
  | nil => cases hmem
  | cons first values ih =>
      obtain ⟨hfirst, hdistinct⟩ := List.nodup_cons.mp hdistinct
      rcases List.mem_cons.mp hmem with rfl | hmem
      · simp
      · have hne : (first.field == required.field) = false :=
          beq_eq_false_iff_ne.mpr fun heq => hfirst (heq ▸ List.mem_map_of_mem hmem)
        rw [List.find?_cons, hne]
        exact ih hmem hdistinct

theorem Orderly.setValue (horderly : r.Orderly) {required : RequiredValue}
    (hplace : required.field ≠ .position)
    (hsize : required.field = .size → ∀ n, required.value ≠ .int n) :
    (r.setValue required).Orderly where
  distinct := by
    refine List.nodup_cons.mpr ⟨?_, horderly.distinct.sublist (List.filter_sublist.map _)⟩
    rintro hmem
    obtain ⟨other, hother, heq⟩ := List.mem_map.mp hmem
    have hne := (List.mem_filter.mp hother).2
    simp [heq] at hne
  placeless := List.forall_mem_cons.mpr
    ⟨hplace, fun other hother => horderly.placeless other (List.mem_filter.mp hother).1⟩
  sizeless := List.forall_mem_cons.mpr
    ⟨hsize, fun other hother => horderly.sizeless other (List.mem_filter.mp hother).1⟩

theorem Orderly.met_of_setValue (horderly : r.Orderly) {required : RequiredValue}
    (hsame : ∀ other, r.value? required.field = some other → other.value = required.value)
    (hmet : (r.setValue required).Met o) : r.Met o where
  values := by
    intro other hother
    by_cases hfield : other.field = required.field
    · have hvalue := hsame other (hfield ▸ horderly.value? hother)
      rw [hfield, hvalue]
      exact hmet.values required List.mem_cons_self
    · exact hmet.values other
        (List.mem_cons_of_mem _ (List.mem_filter.mpr ⟨hother, by simpa using hfield⟩))
  least := hmet.least
  greatest := hmet.greatest
  size := hmet.size

def KeptBy (r later : Requirements) : Prop :=
  ∀ o, later.Met o → r.Met o

def Ensures (r : Requirements) (c : Constraint) : Prop :=
  ∀ o, r.Met o → c.Holds o

theorem KeptBy.ensures (hkept : r.KeptBy next) (hensures : r.Ensures c) : next.Ensures c :=
  fun o hmet => hensures o (hkept o hmet)

/-- What is added is required from then on, unless it is a position, and so is everything that was
required before. -/
theorem Orderly.add (horderly : r.Orderly) (hplace : ∀ value, c ≠ .equals .position value)
    (hok : r.add word c = .ok next) : next.Orderly ∧ r.KeptBy next ∧ next.Ensures c := by
  unfold Requirements.add at hok
  split at hok
  next n =>
    cases hok
    refine ⟨⟨horderly.1, horderly.2, horderly.3⟩, fun o hmet => ?_, fun o hmet => ?_⟩
    · exact ⟨hmet.values, (atLeast_max_iff.mp hmet.least).1, hmet.greatest, hmet.size⟩
    · exact (atLeast_max_iff.mp hmet.least).2
  next n =>
    cases hok
    refine ⟨⟨horderly.1, horderly.2, horderly.3⟩, fun o hmet => ?_, fun o hmet => ?_⟩
    · exact ⟨hmet.values, hmet.least, (atMost_min_iff.mp hmet.greatest).1, hmet.size⟩
    · exact (atMost_min_iff.mp hmet.greatest).2
  next n =>
    split at hok
    next previous hprevious =>
      split at hok
      next heq =>
        cases hok
        refine ⟨horderly, fun o hmet => hmet, fun o hmet => ?_⟩
        rw [Constraint.Holds, Attribute.valueIn, hmet.size previous hprevious, heq]
        rfl
      next => cases hok
    next hnone =>
      cases hok
      refine ⟨⟨horderly.1, horderly.2, horderly.3⟩, fun o hmet => ?_, fun o hmet => ?_⟩
      · exact ⟨hmet.values, hmet.least, hmet.greatest, fun m hm => by simp [hnone] at hm⟩
      · rw [Constraint.Holds, Attribute.valueIn, hmet.size n rfl]
        rfl
  next value => exact absurd rfl (hplace value)
  next field value hsize hposition =>
    have hnew : ∀ {required : RequiredValue}, required.field = field → required.value = value →
        (∀ other, r.value? field = some other → other.value = value) →
        (r.setValue required).Orderly ∧ r.KeptBy (r.setValue required) ∧
          (r.setValue required).Ensures (.equals field value) := by
      rintro required rfl rfl hsame
      refine ⟨horderly.setValue hposition fun hfield n hvalue => hsize n hfield hvalue,
        fun o hmet => horderly.met_of_setValue hsame hmet, fun o hmet => ?_⟩
      exact hmet.values required List.mem_cons_self
    split at hok
    next previous hprevious =>
      split at hok
      next heq =>
        cases hok
        refine hnew rfl rfl fun other hother => ?_
        rw [← Option.some.inj (hprevious.symm.trans hother), heq]
      next => cases hok
    next hnone =>
      cases hok
      refine hnew rfl rfl fun other hother => ?_
      rw [hnone] at hother
      cases hother

/-- What is added one after the other is kept to the end, if what is required is kept by each. -/
theorem Orderly.foldlM {α ε : Type} {step : Requirements → α → Except ε Requirements}
    (Ensured : Requirements → α → Prop) (horderly : r.Orderly) {xs : List α}
    (hkeep : ∀ {r next : Requirements} {x : α}, r.KeptBy next → Ensured r x → Ensured next x)
    (hstep : ∀ x ∈ xs, ∀ {r next : Requirements}, r.Orderly → step r x = .ok next →
      next.Orderly ∧ r.KeptBy next ∧ Ensured next x)
    (hok : xs.foldlM step r = .ok next) :
    next.Orderly ∧ r.KeptBy next ∧ ∀ x ∈ xs, Ensured next x := by
  induction xs generalizing r with
  | nil =>
      cases hok
      exact ⟨horderly, fun _ hmet => hmet, List.forall_mem_nil _⟩
  | cons x xs ih =>
      obtain ⟨hx, hxs⟩ := List.forall_mem_cons.mp hstep
      rw [List.foldlM_cons] at hok
      obtain ⟨added, hadd, hok⟩ := bind_eq_ok hok
      obtain ⟨hadded, hkept, hensured⟩ := hx horderly hadd
      obtain ⟨hnext, hlater, hrest⟩ := ih hadded hxs hok
      exact ⟨hnext, fun o hmet => hkept o (hlater o hmet),
        List.forall_mem_cons.mpr ⟨hkeep hlater hensured, hrest⟩⟩

theorem Orderly.addAll (horderly : r.Orderly) {cs : List Constraint}
    (hplace : ∀ c ∈ cs, ∀ value, c ≠ .equals .position value)
    (hok : cs.foldlM (fun r c => r.add word c) r = .ok next) :
    next.Orderly ∧ r.KeptBy next ∧ ∀ c ∈ cs, next.Ensures c :=
  horderly.foldlM Ensures KeptBy.ensures
    (fun c hc _ _ horderly hadd => horderly.add (hplace c hc) hadd) hok

def EnsuresTerm (r : Requirements) (t : Term) : Prop :=
  ∀ cs, t.predicate.constraints? = some cs → ∀ c ∈ cs, r.Ensures c

theorem Orderly.addTerm (horderly : r.Orderly) (ht : t.Solvable) (hok : r.addTerm t = .ok next) :
    next.Orderly ∧ r.KeptBy next ∧ next.EnsuresTerm t := by
  obtain ⟨cs, hcs⟩ := Option.isSome_iff_exists.mp ht.simple
  have hplace : ∀ c ∈ cs, ∀ value, c ≠ .equals .position value := by
    rintro c hc value rfl
    have hreads := (Predicate.asks_of_constraints? hcs).2.reads hc
    rw [ht.placeless] at hreads
    cases hreads
  rw [Requirements.addTerm, if_neg (by simp [ht.affirmed]), hcs] at hok
  obtain ⟨hnext, hkept, hensures⟩ := horderly.addAll hplace hok
  refine ⟨hnext, hkept, fun cs' hcs' => ?_⟩
  obtain rfl := Option.some.inj (hcs.symm.trans hcs')
  exact hensures

theorem KeptBy.ensuresTerm (hkept : r.KeptBy next) (hensures : r.EnsuresTerm t) :
    next.EnsuresTerm t :=
  fun cs hcs c hc => hkept.ensures (hensures cs hcs c hc)

/-- An object that is as all the terms require meets what each of them asks for. -/
theorem ensures_ofTerms (hterms : ∀ t ∈ terms, t.Solvable) (hok : ofTerms terms = .ok r) :
    r.Orderly ∧ ∀ t ∈ terms, r.EnsuresTerm t := by
  obtain ⟨horderly, -, hensures⟩ := orderly_nothing.foldlM EnsuresTerm KeptBy.ensuresTerm
    (fun t ht _ _ horderly hadd => horderly.addTerm (hterms t ht) hadd) hok
  exact ⟨horderly, hensures⟩

/-! ### The candidate is as required -/

theorem chosenSize_eq_ok {n : Int64} (hok : r.chosenSize = .ok n) :
    r.least ≤ n ∧ n ≤ r.greatest ∧ ∀ m, r.size = some m → n = m := by
  rw [chosenSize] at hok
  split at hok
  next => cases hok
  next hbounds =>
    have hle : r.least ≤ r.greatest := Std.not_lt.mp hbounds
    split at hok
    next m hm =>
      split at hok
      next => cases hok
      next hinside =>
        cases hok
        obtain ⟨hleast, hgreatest⟩ := not_or.mp hinside
        refine ⟨Std.not_lt.mp hleast, Std.not_lt.mp hgreatest, fun k hk => ?_⟩
        exact Option.some.inj (hm.symm.trans hk)
    next hnone =>
      cases hok
      refine ⟨?_, atLeast_max_iff.mpr ⟨hle, ?_⟩, fun k hk => ?_⟩
      · exact (atLeast_max_iff.mp (Std.le_refl _)).1
      · exact (atMost_min_iff.mp (Std.le_refl _)).1
      · rw [hnone] at hk
        cases hk

theorem text?_of_mem (horderly : r.Orderly) {required : RequiredValue} (hmem : required ∈ r.values)
    {text : String} (htext : required.value.value = .str text) :
    r.text? required.field = some text := by
  obtain ⟨field, value, word⟩ := required
  cases value <;> cases htext
  rw [text?, horderly.value? hmem]

/-- If any object is as required, then the candidate is. -/
theorem Met.candidate (hmet : r.Met o) (horderly : r.Orderly)
    (hok : r.blueprint none = .ok blueprint) : r.Met blueprint.candidate := by
  rw [Requirements.blueprint] at hok
  obtain ⟨size, hsize, hok⟩ := bind_eq_ok hok
  obtain ⟨owner, howner, hok⟩ := bind_eq_ok hok
  cases hok
  obtain ⟨hleast, hgreatest, hexact⟩ := chosenSize_eq_ok hsize
  refine ⟨fun required hmem => ?_, hleast, hgreatest, hexact⟩
  have hvalue := hmet.values required hmem
  have htext : ∀ {text}, required.field.valueIn o = .str text →
      r.text? required.field = some text :=
    fun h => text?_of_mem horderly hmem (hvalue.symm.trans h)
  rw [← hvalue]
  obtain ⟨field, value, word⟩ := required
  cases field with
  | name => simp [Attribute.valueIn, Blueprint.candidate, Blueprint.build, htext rfl]
  | shape => simp [Attribute.valueIn, Blueprint.candidate, Blueprint.build, htext rfl]
  | color => simp [Attribute.valueIn, Blueprint.candidate, Blueprint.build, htext rfl]
  | material => simp [Attribute.valueIn, Blueprint.candidate, Blueprint.build, htext rfl]
  | position => exact absurd rfl (horderly.placeless _ hmem)
  | size =>
      cases value <;> cases hvalue
      exact absurd rfl (horderly.sizeless _ hmem rfl _)
  | owner =>
      cases value <;> cases hvalue
      rw [chosenOwner, horderly.value? hmem] at howner
      dsimp only at howner
      rw [Owner.ofLabel?_label] at howner
      cases howner
      rfl

end Requirements

/-! ### Alternatives -/

theorem Term.Solvable.fits_of_holds (ht : t.Solvable) {o' : Object} (hfits : t.fits o = true)
    (hholds : ∀ cs, t.predicate.constraints? = some cs → ∀ c ∈ cs, c.Holds o') :
    t.fits o' = true := by
  obtain ⟨cs, hcs⟩ := Option.isSome_iff_exists.mp ht.simple
  rw [Term.fits_eq_true, ht.affirmed] at hfits ⊢
  refine Predicate.test_eq_true.mpr ((Predicate.asks_of_constraints? hcs).2.eval_of_holds ?_
    (Predicate.test_eq_true.mp hfits) (hholds cs hcs))
  intro field first rest hlists
  have huses := hlists.uses
  rw [ht.listless] at huses
  cases huses

theorem synthesizeConjunction_of_fits {r : Requirements} (hr : Requirements.ofTerms terms = .ok r)
    (hblueprint : r.blueprint name = .ok blueprint)
    (hfits : ∀ t ∈ terms, t.fits blueprint.candidate = true) :
    synthesizeConjunction terms name = .ok blueprint := by
  have hnone : terms.filter (fun t => !t.fits blueprint.candidate) = [] := by
    simpa using hfits
  rw [synthesizeConjunction, hr]
  change (((r.blueprint name).mapError _) >>= _) = _
  rw [hblueprint]
  change (if (terms.filter fun t => !t.fits blueprint.candidate).isEmpty then _ else _) = _
  rw [hnone]
  rfl

/-- A conjunction of solvable terms is made exactly if some object fits all of them. -/
theorem exists_synthesizeConjunction_iff (hterms : ∀ t ∈ terms, t.Solvable) :
    (∃ blueprint, synthesizeConjunction terms none = .ok blueprint) ↔
      ∃ o, ∀ t ∈ terms, t.fits o = true := by
  constructor
  · rintro ⟨blueprint, hok⟩
    exact ⟨blueprint.candidate, synthesizeConjunction_eq_ok hok⟩
  · rintro ⟨o, hfits⟩
    have hread : ∀ t ∈ terms, ¬ t.Misreads o := by
      rintro t ht ⟨field, first, rest, hlists, -⟩
      have huses := hlists.uses
      rw [(hterms t ht).listless] at huses
      cases huses
    obtain ⟨r, hr, hmet⟩ :=
      Requirements.met_ofTerms fun t ht => t.askedBy (hfits t ht) (hread t ht)
    obtain ⟨blueprint, hblueprint⟩ := hmet.exists_blueprint none
    obtain ⟨horderly, hensures⟩ := Requirements.ensures_ofTerms hterms hr
    have hcandidate := hmet.candidate horderly hblueprint
    refine ⟨blueprint, synthesizeConjunction_of_fits hr hblueprint fun t ht => ?_⟩
    exact (hterms t ht).fits_of_holds (hfits t ht) fun cs hcs c hc =>
      hensures t ht cs hcs c hc _ hcandidate

theorem exists_synthesizeFirst_iff {alternatives : List (List Term)} :
    (∃ blueprint, synthesizeFirst name alternatives = .ok blueprint) ↔
      ∃ terms ∈ alternatives, ∃ blueprint, synthesizeConjunction terms name = .ok blueprint := by
  constructor
  · rintro ⟨blueprint, hok⟩
    obtain ⟨terms, hterms, hmade⟩ := synthesizeFirst_eq_ok hok
    exact ⟨terms, hterms, blueprint, hmade⟩
  · rintro ⟨terms, hterms, hmade⟩
    induction alternatives with
    | nil => cases hterms
    | cons first alternatives ih =>
        rw [synthesizeFirst]
        cases hfirst : synthesizeConjunction first name with
        | ok blueprint => exact ⟨blueprint, rfl⟩
        | error reason =>
            have hlater : terms ∈ alternatives := by
              rcases List.mem_cons.mp hterms with rfl | hlater
              · obtain ⟨blueprint, hblueprint⟩ := hmade
                rw [hfirst] at hblueprint
                cases hblueprint
              · exact hlater
            obtain ⟨blueprint, hblueprint⟩ := ih hlater
            rw [hblueprint]
            exact ⟨blueprint, rfl⟩

/-- For a description of solvable terms an object can be made exactly if there is one that fits. -/
theorem Description.exists_synthesize_iff {d : Description}
    (hterms : ∀ terms ∈ d.alternatives, ∀ t ∈ terms, t.Solvable) :
    (∃ blueprint, d.synthesize none = .ok blueprint) ↔ ∃ o, d.fits o = true := by
  rw [Description.synthesize]
  split
  next hempty =>
    refine ⟨fun _ => ⟨Blueprint.candidate {}, ?_⟩, fun _ => ⟨_, rfl⟩⟩
    rw [Description.fits, hempty, Bool.true_or]
  next hsome =>
    have hfits : ∀ o, d.fits o = true ↔ ∃ terms ∈ d.alternatives, ∀ t ∈ terms, t.fits o = true := by
      simp [Description.fits, hsome]
    rw [exists_synthesizeFirst_iff]
    constructor
    · rintro ⟨terms, hmem, hmade⟩
      obtain ⟨o, ho⟩ := (exists_synthesizeConjunction_iff (hterms terms hmem)).mp hmade
      exact ⟨o, (hfits o).mpr ⟨terms, hmem, ho⟩⟩
    · rintro ⟨o, ho⟩
      obtain ⟨terms, hmem, ho⟩ := (hfits o).mp ho
      exact ⟨terms, hmem, (exists_synthesizeConjunction_iff (hterms terms hmem)).mpr ⟨o, ho⟩⟩

/-- Nothing is larger than the greatest size, and only the least size is smaller than the one after
it. -/
theorem Description.exists_synthesize_iff_sizes :
    let size := fun (op : BinaryOp) (n : Int64) =>
      Expr.binary op (.attr .obj .size) (.literal (.int n))
    let huge : Term := ⟨"huge", false,
      ⟨.unary, size .gt Int64.maxValue, "obj.size > 9223372036854775807"⟩⟩
    let tiny : Term := ⟨"tiny", false,
      ⟨.unary, size .lt (-Int64.maxValue), "obj.size < -9223372036854775807"⟩⟩
    let ours : Term := ⟨"ours", false,
      ⟨.unary, .binary .eq (.literal (.str "agent")) (.attr .obj .owner), "'agent' == obj.owner"⟩⟩
    let hopeless : Description := ⟨[[huge, ours]]⟩
    let d : Description := ⟨[[huge, ours], [tiny, ours]]⟩
    (∀ terms ∈ d.alternatives, ∀ t ∈ terms, t.Solvable) ∧
      hopeless.synthesize none = .error (.gap ["huge"]) ∧ (¬ ∃ o, hopeless.fits o = true) ∧
      d.synthesize none = .ok { size := some Int64.minValue, owner := some .agent } ∧
      ∃ o, d.fits o = true := by
  intro size huge tiny ours hopeless d
  have hhuge : ∀ t ∈ [huge, ours], t.Solvable := by decide +kernel
  have htiny : ∀ t ∈ [tiny, ours], t.Solvable := by decide +kernel
  have hterms : ∀ terms ∈ d.alternatives, ∀ t ∈ terms, t.Solvable :=
    List.forall_mem_cons.mpr ⟨hhuge, List.forall_mem_singleton.mpr htiny⟩
  have hgap : hopeless.synthesize none = .error (.gap ["huge"]) := by decide +kernel
  have hmade : d.synthesize none =
      .ok { size := some Int64.minValue, owner := some .agent } := by
    decide +kernel
  refine ⟨hterms, hgap, fun hexists => ?_, hmade, (exists_synthesize_iff hterms).mp ⟨_, hmade⟩⟩
  obtain ⟨blueprint, hblueprint⟩ :=
    (exists_synthesize_iff (d := hopeless) (List.forall_mem_singleton.mpr hhuge)).mpr hexists
  rw [hgap] at hblueprint
  cases hblueprint

end Apprentice
