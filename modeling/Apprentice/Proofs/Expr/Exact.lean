import Apprentice.Proofs.Expr.IntegerRange
import Apprentice.Proofs.Expr.Simple

/-!
# How exactly a condition is asked for

To be greater than a word is asked for as to be at least the next word up. The greatest word has no
next one: to be greater than it cannot be, and what is asked for is the greatest word itself. At the
other end there is no such gap, because no condition names the least word. Besides that, an object
that meets what a condition asks for satisfies the condition, unless items of a list fail to have a
value.
-/

namespace Apprentice

open Apprentice.Expr

/-- Whether a part of a conjunction wants a size above the greatest word. -/
inductive Expr.Overreaches : Expr → Prop
  | greater (subject : Variable) :
      Overreaches (.binary .gt (.attr subject .size) (.literal (.int Int64.maxValue)))
  | flipped (subject : Variable) :
      Overreaches (.binary .lt (.literal (.int Int64.maxValue)) (.attr subject .size))
  | left {left right : Expr} (hleft : Overreaches left) : Overreaches (.binary .and left right)
  | right {left right : Expr} (hright : Overreaches right) : Overreaches (.binary .and left right)

def Expr.ListsHaveValues (o : Object) (e : Expr) : Prop :=
  ∀ field first rest, e.Lists field first rest → ∃ values, evalItems (.single o) rest = .ok values

namespace Constraint

variable {o : Object} {field : Attribute} {value : Literal} {c : Constraint} {subject : Variable}
  {op flipped : BinaryOp} {left right : Expr}

/-! ### Comparisons -/

theorem overreaches_and :
    (Expr.binary .and left right).Overreaches ↔ left.Overreaches ∨ right.Overreaches := by
  constructor
  · intro hoverreaches
    cases hoverreaches with
    | left hleft => exact .inl hleft
    | right hright => exact .inr hright
  · rintro (hleft | hright)
    · exact .left hleft
    · exact .right hright

theorem overreaches_comparison (hop : op ≠ .and) :
    (Expr.binary op (.attr subject field) (.literal value)).Overreaches ↔
      op = .gt ∧ field = .size ∧ value = .int Int64.maxValue := by
  constructor
  · intro hoverreaches
    cases hoverreaches with
    | greater => exact ⟨rfl, rfl, rfl⟩
    | left | right => exact absurd rfl hop
  · rintro ⟨rfl, rfl, rfl⟩
    exact .greater subject

theorem overreaches_flipped (hflip : flip? op = some flipped) :
    (Expr.binary op (.literal value) (.attr subject field)).Overreaches ↔
      flipped = .gt ∧ field = .size ∧ value = .int Int64.maxValue := by
  constructor
  · intro hoverreaches
    cases hoverreaches with
    | flipped =>
        cases hflip
        exact ⟨rfl, rfl, rfl⟩
    | left | right => cases hflip
  · rintro ⟨rfl, rfl, rfl⟩
    cases op <;> cases hflip
    exact .flipped subject

theorem lt_maxValue {n : Int64} (hne : n ≠ Int64.maxValue) : n < Int64.maxValue :=
  Int64.lt_of_le_of_ne (Int64.le_iff_toInt_le.mpr n.toInt_le) hne

theorem minValue_lt {n : Int64} (hne : n ≠ Int64.minValue) : Int64.minValue < n :=
  Int64.lt_of_le_of_ne (Int64.le_iff_toInt_le.mpr n.minValue_le_toInt) hne.symm

/-- A comparison that an object meets is true of it, unless the object would have to be greater than
the greatest word, or less than the least one. -/
theorem comparison_iff_of_holds (hc : ofComparison? field op value = some c)
    (hleast : value ≠ .int Int64.minValue) (hholds : c.Holds o) :
    applyBinary op (field.valueIn o) value.value = .ok (.bool true) ↔
      ¬ (op = .gt ∧ field = .size ∧ value = .int Int64.maxValue) := by
  constructor
  · rintro htrue ⟨rfl, rfl, rfl⟩
    have hlt := Int64.lt_iff_toInt_lt.mp (size_gt_eq_true.mp htrue)
    have hle := o.size.toInt_le
    omega
  · intro hgreatest
    unfold ofComparison? at hc
    split at hc <;> cases hc
    next => exact eq_eq_true.mpr hholds
    next n =>
      have hne : n ≠ Int64.maxValue := fun heq => hgreatest ⟨rfl, rfl, congrArg Literal.int heq⟩
      exact size_gt_eq_true.mpr ((above_le_iff (lt_maxValue hne)).mp hholds)
    next n => exact size_ge_eq_true.mpr hholds
    next n =>
      have hne : n ≠ Int64.minValue := fun heq => hleast (congrArg Literal.int heq)
      exact size_lt_eq_true.mpr ((le_below_iff (minValue_lt hne)).mp hholds)
    next n => exact size_le_eq_true.mpr hholds

/-! ### Conditions -/

theorem listsHaveValues_and : (Expr.binary .and left right).ListsHaveValues o ↔
    left.ListsHaveValues o ∧ right.ListsHaveValues o := by
  constructor
  · intro hvalues
    exact ⟨fun field first rest hlists => hvalues field first rest (.left hlists),
      fun field first rest hlists => hvalues field first rest (.right hlists)⟩
  · rintro ⟨hleft, hright⟩ field first rest (_ | hlists | hlists)
    · exact hleft field first rest hlists
    · exact hright field first rest hlists

theorem listsHaveValues_membership {first : Literal} {rest : List Expr} :
    (Expr.binary .isIn (.attr subject field) (.list (.literal first :: rest))).ListsHaveValues o ↔
      ∃ values, evalItems (.single o) rest = .ok values := by
  constructor
  · exact fun hvalues => hvalues field first rest .here
  · rintro hrest _ _ _ ⟨⟩
    exact hrest

/-- An object that meets what a condition asks for satisfies it, if no part of the condition wants
more than the greatest word and all items of its lists have a value, and only then. -/
theorem Asks.eval_iff_of_holds {e : Expr} {cs : List Constraint} (hasks : Asks e cs)
    (htype : typeOf .unary e = .ok .bool) (hnegatable : e.Negatable)
    (hholds : ∀ c ∈ cs, c.Holds o) :
    eval (.single o) e = .ok (.bool true) ↔ ¬ e.Overreaches ∧ e.ListsHaveValues o := by
  induction hasks with
  | always => exact iff_of_true rfl ⟨nofun, nofun⟩
  | both hleft hright ihleft ihright =>
      obtain ⟨leftTy, rightTy, hleftTy, hrightTy, hresult⟩ := typeOf_binary_eq_ok htype
      obtain ⟨rfl, rfl, -⟩ := BinaryOp.result?_connective (.inl rfl) hresult
      obtain ⟨hleftHolds, hrightHolds⟩ := List.forall_mem_append.mp hholds
      obtain ⟨hleftNegatable, hrightNegatable⟩ := negatable_binary.mp hnegatable
      rw [eval_and_iff, ihleft hleftTy hleftNegatable hleftHolds,
        ihright hrightTy hrightNegatable hrightHolds, overreaches_and, not_or, listsHaveValues_and]
      exact and_and_and_comm
  | comparison hc =>
      obtain ⟨leftTy, rightTy, hleftTy, -, -⟩ := typeOf_binary_eq_ok htype
      have hop := ofComparison?_ne hc
      have hleast := (negatable_binary.mp hnegatable).2.ne_minValue
      rw [eval_comparison hop hleftTy, overreaches_comparison hop.1,
        comparison_iff_of_holds hc hleast (List.forall_mem_singleton.mp hholds)]
      exact (and_iff_left nofun).symm
  | flipped hflip hc =>
      obtain ⟨leftTy, rightTy, -, hrightTy, -⟩ := typeOf_binary_eq_ok htype
      have hleast := (negatable_binary.mp hnegatable).1.ne_minValue
      rw [eval_flipped hflip hrightTy, overreaches_flipped hflip,
        comparison_iff_of_holds hc hleast (List.forall_mem_singleton.mp hholds)]
      exact (and_iff_left nofun).symm
  | membership =>
      obtain ⟨leftTy, rightTy, hleftTy, -, -⟩ := typeOf_binary_eq_ok htype
      have hfirst := List.forall_mem_singleton.mp hholds
      rw [eval_membership_eq_true hleftTy hfirst, listsHaveValues_membership]
      exact (and_iff_right nofun).symm

end Constraint

/-- An object that meets what a condition asks for satisfies it, unless the condition wants more
than the greatest word or an item of one of its lists has no value; an object that satisfies a
condition without lists meets what it asks for. -/
theorem Predicate.test_iff_of_constraints? {arity : Arity} {source : String} {p : Predicate}
    {cs : List Constraint} (hcompile : Predicate.compile arity source = .ok p)
    (hcs : p.constraints? = some cs) (o : Object) :
    ((∀ c ∈ cs, c.Holds o) →
      (p.test o = true ↔ ¬ p.root.Overreaches ∧ p.root.ListsHaveValues o)) ∧
    (p.root.uses .isIn = false → p.test o = true → ∀ c ∈ cs, c.Holds o) := by
  obtain ⟨hunary, hasks⟩ := Predicate.asks_of_constraints? hcs
  obtain ⟨harity, htype⟩ := Predicate.compile_eq_ok hcompile
  rw [← harity, hunary] at htype
  rw [Predicate.test_eq_true]
  refine ⟨hasks.eval_iff_of_holds htype (negatable_of_compile hcompile), fun huses htrue => ?_⟩
  refine hasks.holds htrue fun field first rest hlists => ?_
  rw [hlists.uses] at huses
  cases huses

/-- An object as large as the greatest word meets what a condition asks for that nothing satisfies.
Below that, what is asked for is exact. -/
theorem Predicate.test_iff_of_constraints?_greatest :
    (∃ p, Predicate.compile .unary "obj.size > 9223372036854775807" = .ok p ∧
      p.constraints? = some [.sizeAtLeast Int64.maxValue] ∧
      ∀ o : Object, o.size = Int64.maxValue →
        (Constraint.sizeAtLeast Int64.maxValue).Holds o ∧ p.test o = false) ∧
    ∃ p, Predicate.compile .unary "obj.size > 6" = .ok p ∧
      p.constraints? = some [.sizeAtLeast 7] ∧ ∀ o : Object, p.test o = true ↔ 7 ≤ o.size := by
  have hgreatest : Predicate.compile .unary "obj.size > 9223372036854775807" =
      .ok ⟨.unary, .binary .gt (.attr .obj .size) (.literal (.int Int64.maxValue)),
        "obj.size > 9223372036854775807"⟩ := by
    have htokens : tokenize "obj.size > 9223372036854775807" = .ok [⟨.ident "obj", 0⟩, ⟨.dot, 3⟩,
        ⟨.ident "size", 4⟩, ⟨.gt, 9⟩, ⟨.int Int64.maxValue, 11⟩] := by decide +kernel
    exact Predicate.compile_of_parse (n := 30) htokens rfl (by cbv) rfl (by decide +kernel)
  have hsix : Predicate.compile .unary "obj.size > 6" =
      .ok ⟨.unary, .binary .gt (.attr .obj .size) (.literal (.int 6)), "obj.size > 6"⟩ := by
    have htokens : tokenize "obj.size > 6" = .ok [⟨.ident "obj", 0⟩, ⟨.dot, 3⟩,
        ⟨.ident "size", 4⟩, ⟨.gt, 9⟩, ⟨.int 6, 11⟩] := by decide +kernel
    exact Predicate.compile_of_parse (n := 12) htokens rfl (by cbv) rfl (by decide +kernel)
  refine ⟨⟨_, hgreatest, rfl, fun o hsize => ?_⟩, ⟨_, hsix, rfl, fun o => ?_⟩⟩
  · obtain ⟨hmeets, -⟩ := Predicate.test_iff_of_constraints? hgreatest rfl o
    have hholds : (Constraint.sizeAtLeast Int64.maxValue).Holds o := Int64.le_of_eq hsize.symm
    refine ⟨hholds, Bool.eq_false_iff.mpr fun htrue => ?_⟩
    have hexact := (hmeets (List.forall_mem_singleton.mpr hholds)).mp htrue
    exact hexact.1 (.greater .obj)
  · obtain ⟨hmeets, hsatisfies⟩ := Predicate.test_iff_of_constraints? hsix rfl o
    constructor
    · intro htrue
      exact hsatisfies rfl htrue (.sizeAtLeast 7) List.mem_cons_self
    · intro hle
      refine (hmeets (List.forall_mem_singleton.mpr hle)).mpr ⟨fun hover => ?_, ?_⟩
      · cases hover
      · intro field first rest hlists
        cases hlists

end Apprentice
