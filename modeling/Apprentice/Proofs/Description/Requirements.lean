import Apprentice.Description.Synthesis
import Apprentice.Proofs.Expr.Simple

/-!
# Requirements that an object meets

What the words of an alternative require is gathered word by word. An object that meets what is
gathered so far and what the next word asks for meets both together, and then there is no conflict:
every conflict is found between two requirements that no object meets both of.
-/

namespace Apprentice

open Apprentice.Expr

theorem Owner.ofLabel?_label (owner : Owner) : Owner.ofLabel? owner.label = some owner := by
  cases owner <;> decide +kernel

namespace Requirements

/-- Whether an object is as required. -/
structure Met (r : Requirements) (o : Object) : Prop where
  values : ∀ required ∈ r.values, required.field.valueIn o = required.value.value
  least : r.least ≤ o.size
  greatest : o.size ≤ r.greatest
  size : ∀ n, r.size = some n → o.size = n

variable {r next : Requirements} {o : Object} {word : String} {c : Constraint}

theorem value?_eq_some {field : Attribute} {required : RequiredValue}
    (hsome : r.value? field = some required) : required ∈ r.values ∧ required.field = field := by
  refine ⟨List.mem_of_find?_eq_some hsome, ?_⟩
  simpa using List.find?_some hsome

theorem Met.value? (hmet : r.Met o) {field : Attribute} {required : RequiredValue}
    (hsome : r.value? field = some required) : field.valueIn o = required.value.value := by
  obtain ⟨hmem, rfl⟩ := value?_eq_some hsome
  exact hmet.values required hmem

/-! ### Gathering -/

theorem atLeast_max_iff {a b size : Int64} : max a b ≤ size ↔ a ≤ size ∧ b ≤ size := by
  change (if a ≤ b then b else a) ≤ size ↔ _
  split
  next hle => exact ⟨fun hb => ⟨Std.le_trans hle hb, hb⟩, fun hboth => hboth.2⟩
  next hle => exact ⟨fun ha => ⟨ha, Std.le_trans (Std.le_of_not_ge hle) ha⟩, fun hboth => hboth.1⟩

theorem atMost_min_iff {a b size : Int64} : size ≤ min a b ↔ size ≤ a ∧ size ≤ b := by
  change size ≤ (if a ≤ b then a else b) ↔ _
  split
  next hle => exact ⟨fun ha => ⟨ha, Std.le_trans ha hle⟩, fun hboth => hboth.1⟩
  next hle => exact ⟨fun hb => ⟨Std.le_trans hb (Std.le_of_not_ge hle), hb⟩, fun hboth => hboth.2⟩

theorem met_nothing : ({} : Requirements).Met o where
  values := by
    intro required hrequired
    cases hrequired
  least := Int64.le_iff_toInt_le.mpr o.size.le_toInt
  greatest := Int64.le_iff_toInt_le.mpr o.size.toInt_le
  size := by
    intro n hn
    cases hn

theorem Met.setValue (hmet : r.Met o) {required : RequiredValue}
    (hholds : required.field.valueIn o = required.value.value) : (r.setValue required).Met o where
  values := by
    intro other hother
    rcases List.mem_cons.mp hother with rfl | hother
    · exact hholds
    · exact hmet.values other (List.mem_filter.mp hother).1
  least := hmet.least
  greatest := hmet.greatest
  size := hmet.size

theorem Met.atLeast (hmet : r.Met o) {n : Int64} (hn : n ≤ o.size) :
    ({ r with least := max r.least n } : Requirements).Met o where
  values := hmet.values
  least := atLeast_max_iff.mpr ⟨hmet.least, hn⟩
  greatest := hmet.greatest
  size := hmet.size

theorem Met.atMost (hmet : r.Met o) {n : Int64} (hn : o.size ≤ n) :
    ({ r with greatest := min r.greatest n } : Requirements).Met o where
  values := hmet.values
  least := hmet.least
  greatest := atMost_min_iff.mpr ⟨hmet.greatest, hn⟩
  size := hmet.size

theorem Met.leaveUnsolved (hmet : r.Met o) (word : String) : (r.leaveUnsolved word).Met o where
  values := hmet.values
  least := hmet.least
  greatest := hmet.greatest
  size := hmet.size

theorem Met.add (hmet : r.Met o) (hholds : c.Holds o) (word : String) :
    ∃ next, r.add word c = .ok next ∧ next.Met o := by
  unfold Requirements.add
  split
  next n => exact ⟨_, rfl, hmet.atLeast hholds⟩
  next n => exact ⟨_, rfl, hmet.atMost hholds⟩
  next n =>
    have hsize : o.size = n := by
      simpa [Constraint.Holds, Attribute.valueIn, Literal.value] using hholds
    split
    next previous hprevious =>
      rw [if_pos ((hmet.size previous hprevious).symm.trans hsize)]
      exact ⟨r, rfl, hmet⟩
    next =>
      refine ⟨_, rfl, ⟨hmet.values, hmet.least, hmet.greatest, fun m hm => ?_⟩⟩
      rw [hsize, Option.some.inj hm]
  next => exact ⟨_, rfl, hmet.leaveUnsolved word⟩
  next field value _ _ =>
    split
    next previous hprevious =>
      have heq : previous.value = value :=
        Literal.value_inj ((hmet.value? hprevious).symm.trans hholds)
      rw [if_pos heq]
      exact ⟨_, rfl, hmet.setValue hholds⟩
    next => exact ⟨_, rfl, hmet.setValue hholds⟩

theorem Met.addAll {cs : List Constraint} (hmet : r.Met o) (hholds : ∀ c ∈ cs, c.Holds o)
    (word : String) :
    ∃ next, cs.foldlM (fun r c => r.add word c) r = .ok next ∧ next.Met o := by
  induction cs generalizing r with
  | nil => exact ⟨r, rfl, hmet⟩
  | cons c cs ih =>
      obtain ⟨hc, hrest⟩ := List.forall_mem_cons.mp hholds
      obtain ⟨next, hadd, hnext⟩ := hmet.add hc word
      rw [List.foldlM_cons, hadd]
      exact ih hnext hrest

/-- Whether an object meets what a term asks for. A negated term asks for nothing. -/
def AskedBy (o : Object) (t : Term) : Prop :=
  t.negated = false → ∀ cs, t.predicate.constraints? = some cs → ∀ c ∈ cs, c.Holds o

theorem Met.addTerm {t : Term} (hmet : r.Met o) (hasked : AskedBy o t) :
    ∃ next, r.addTerm t = .ok next ∧ next.Met o := by
  unfold Requirements.addTerm
  split
  next => exact ⟨r, rfl, hmet⟩
  next hnegated =>
    split
    next => exact ⟨_, rfl, hmet.leaveUnsolved t.word⟩
    next cs hcs => exact hmet.addAll (hasked (by simpa using hnegated) cs hcs) t.word

theorem met_ofTerms {terms : List Term} (hasked : ∀ t ∈ terms, AskedBy o t) :
    ∃ r, ofTerms terms = .ok r ∧ r.Met o := by
  have hfold : ∀ {r : Requirements}, r.Met o →
      ∃ next, terms.foldlM Requirements.addTerm r = .ok next ∧ next.Met o := by
    induction terms with
    | nil => exact fun hmet => ⟨_, rfl, hmet⟩
    | cons t terms ih =>
        intro r hmet
        obtain ⟨ht, hrest⟩ := List.forall_mem_cons.mp hasked
        obtain ⟨next, hadd, hnext⟩ := hmet.addTerm ht
        rw [List.foldlM_cons, hadd]
        exact ih hrest hnext
  exact hfold met_nothing

/-! ### Choosing values -/

theorem Met.exists_chosenSize (hmet : r.Met o) : ∃ n, r.chosenSize = .ok n := by
  have hbounds : ¬ r.greatest < r.least :=
    Std.not_lt.mpr (Std.le_trans hmet.least hmet.greatest)
  rw [chosenSize, if_neg hbounds]
  split
  next n hn =>
    obtain rfl := hmet.size n hn
    rw [if_neg (not_or.mpr ⟨Std.not_lt.mpr hmet.least, Std.not_lt.mpr hmet.greatest⟩)]
    exact ⟨_, rfl⟩
  next => exact ⟨_, rfl⟩

theorem Met.exists_chosenOwner (hmet : r.Met o) : ∃ owner, r.chosenOwner = .ok owner := by
  unfold chosenOwner
  split
  next text _ hsome =>
    have hlabel : o.owner.label = text := by
      simpa [Attribute.valueIn, Literal.value] using hmet.value? hsome
    rw [← hlabel, Owner.ofLabel?_label]
    exact ⟨_, rfl⟩
  next => exact ⟨_, rfl⟩

theorem Met.exists_blueprint (hmet : r.Met o) (name : Option String) :
    ∃ blueprint, r.blueprint name = .ok blueprint := by
  obtain ⟨size, hsize⟩ := hmet.exists_chosenSize
  obtain ⟨owner, howner⟩ := hmet.exists_chosenOwner
  rw [blueprint, hsize, howner]
  exact ⟨_, rfl⟩

/-- A condition that is forced asks for nothing but values that are required already. -/
theorem Met.of_force (hmet : r.Met o) {p : Predicate} (hforce : r.force p = true) :
    ∃ cs, p.constraints? = some cs ∧
      ∀ c ∈ cs, ∃ field value, c = .equals field value ∧ c.Holds o := by
  unfold force at hforce
  split at hforce
  next => cases hforce
  next => cases hforce
  next cs _ hcs =>
    refine ⟨cs, hcs, fun c hc => ?_⟩
    have hforced := List.all_eq_true.mp hforce c hc
    split at hforced
    next field value =>
      obtain ⟨required, hrequired, heq⟩ := (Option.any_eq_true _ _).mp hforced
      refine ⟨field, value, rfl, ?_⟩
      rw [Constraint.Holds, hmet.value? hrequired, beq_iff_eq.mp heq]
    next => cases hforced

end Requirements

end Apprentice
