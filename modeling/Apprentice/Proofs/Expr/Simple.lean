import Apprentice.Proofs.Expr.Soundness

/-!
# Simple conditions

What a simple condition asks for and what it says are nearly the same. An object that satisfies the
condition meets what it asks for, and an object that meets equations which a condition asks for
satisfies it. The exception is the membership in a list, which asks for the first item alone: an
object with a later item satisfies it and does not meet what it asks for, and items after the first
may fail to have a value at all.
-/

namespace Apprentice

open Apprentice.Expr

namespace Constraint

def Holds (o : Object) : Constraint → Prop
  | equals field value => field.valueIn o = value.value
  | sizeAtLeast bound => bound ≤ o.size
  | sizeAtMost bound => o.size ≤ bound

/-- The conditions that ask for something that can be met, and what they ask for. -/
inductive Asks : Expr → List Constraint → Prop
  | always : Asks (.literal (.bool true)) []
  | both {left right : Expr} {ls rs : List Constraint} (hleft : Asks left ls)
      (hright : Asks right rs) : Asks (.binary .and left right) (ls ++ rs)
  | comparison {op : BinaryOp} {subject : Variable} {field : Attribute} {value : Literal}
      {c : Constraint} (hc : ofComparison? field op value = some c) :
      Asks (.binary op (.attr subject field) (.literal value)) [c]
  | flipped {op flipped : BinaryOp} {subject : Variable} {field : Attribute} {value : Literal}
      {c : Constraint} (hflip : flip? op = some flipped)
      (hc : ofComparison? field flipped value = some c) :
      Asks (.binary op (.literal value) (.attr subject field)) [c]
  | membership {subject : Variable} {field : Attribute} {first : Literal} {rest : List Expr} :
      Asks (.binary .isIn (.attr subject field) (.list (.literal first :: rest)))
        [.equals field first]

theorem asks_of_ofExpr? {e : Expr} {cs : List Constraint} (hsome : ofExpr? e = some cs) :
    Asks e cs := by
  fun_induction ofExpr? e generalizing cs with
  | case1 => cases hsome; exact .always
  | case2 left right ihleft ihright =>
      obtain ⟨ls, hleft, hsome⟩ := Option.bind_eq_some_iff.mp hsome
      obtain ⟨rs, hright, hsome⟩ := Option.bind_eq_some_iff.mp hsome
      cases hsome
      exact .both (ihleft hleft) (ihright hright)
  | case3 op _ field value =>
      obtain ⟨c, hc, rfl⟩ := Option.map_eq_some_iff.mp hsome
      exact .comparison hc
  | case4 op value _ field =>
      obtain ⟨flipped, hflip, hsome⟩ := Option.bind_eq_some_iff.mp hsome
      obtain ⟨c, hc, rfl⟩ := Option.map_eq_some_iff.mp hsome
      exact .flipped hflip hc
  | case5 _ field first rest => cases hsome; exact .membership
  | case6 => cases hsome

end Constraint

/-- The memberships in lists that a conjunction is made of: the attribute, the first item, which is
a literal, and the items after it. -/
inductive Expr.Lists : Expr → Attribute → Literal → List Expr → Prop
  | here {subject : Variable} {field : Attribute} {first : Literal} {rest : List Expr} :
      Lists (.binary .isIn (.attr subject field) (.list (.literal first :: rest))) field first rest
  | left {left right : Expr} {field : Attribute} {first : Literal} {rest : List Expr}
      (hleft : Lists left field first rest) : Lists (.binary .and left right) field first rest
  | right {left right : Expr} {field : Attribute} {first : Literal} {rest : List Expr}
      (hright : Lists right field first rest) : Lists (.binary .and left right) field first rest

namespace Expr

mutual

def uses (op : BinaryOp) : Expr → Bool
  | .literal _ => false
  | .attr _ _ => false
  | .index target position => uses op target || uses op position
  | .list items => anyUses op items
  | .unary _ operand => uses op operand
  | .binary other left right => other == op || uses op left || uses op right
  | .call _ arguments => anyUses op arguments

def anyUses (op : BinaryOp) : List Expr → Bool
  | [] => false
  | e :: es => uses op e || anyUses op es

end

theorem Lists.uses {e : Expr} {field : Attribute} {first : Literal} {rest : List Expr}
    (hlists : e.Lists field first rest) : e.uses .isIn = true := by
  induction hlists with
  | here => simp [Expr.uses]
  | left _ ih => simp [Expr.uses, ih]
  | right _ ih => simp [Expr.uses, ih]

end Expr

/-! ### Values and literals -/

theorem Expr.Value.same_literal {v : Value} {l : Literal} :
    v.same l.value = true ↔ v = l.value := by
  cases v <;> cases l <;> simp [Value.same, Literal.value]

theorem Expr.Value.literal_same {v : Value} {l : Literal} :
    l.value.same v = true ↔ v = l.value := by
  cases v <;> cases l <;> simp [Value.same, Literal.value] <;> exact eq_comm

theorem Expr.Value.isTrue_iff {v : Value} : v.isTrue = true ↔ v = .bool true := by
  cases v with
  | bool b => cases b <;> simp [Value.isTrue]
  | _ => simp [Value.isTrue]

theorem Expr.Literal.value_inj {l l' : Literal} (heq : l.value = l'.value) : l = l' := by
  cases l <;> cases l' <;> simp_all [Literal.value]

theorem Expr.eval_attr_eq_ok {o : Object} {subject : Variable} {field : Attribute} {v : Value}
    (hok : eval (.single o) (.attr subject field) = .ok v) :
    subject = .obj ∧ v = field.valueIn o := by
  cases subject with
  | obj => exact ⟨rfl, (Except.ok.inj hok).symm⟩
  | obj1 => cases hok
  | obj2 => cases hok

theorem Expr.eval_and_iff {binding : Binding} {left right : Expr} :
    eval binding (.binary .and left right) = .ok (.bool true) ↔
      eval binding left = .ok (.bool true) ∧ eval binding right = .ok (.bool true) := by
  constructor
  · intro htrue
    rw [eval] at htrue
    obtain ⟨leftValue, hleft, htrue⟩ := bind_eq_ok htrue
    split at htrue
    next hleftTrue =>
      obtain ⟨rightValue, hright, htrue⟩ := bind_eq_ok htrue
      have hrightTrue : rightValue.isTrue = true := by
        simpa using Except.ok.inj htrue
      exact ⟨by rw [hleft, Value.isTrue_iff.mp hleftTrue],
        by rw [hright, Value.isTrue_iff.mp hrightTrue]⟩
    next => cases htrue
  · rintro ⟨hleft, hright⟩
    rw [eval, hleft]
    change (eval binding right >>= fun v => Except.ok (Value.bool v.isTrue)) = _
    rw [hright]
    rfl

theorem Predicate.test_eq_true {p : Predicate} {o : Object} :
    p.test o = true ↔ eval (.single o) p.root = .ok (.bool true) := by
  rw [Predicate.test, Predicate.truth]
  split
  next b heval => rw [heval]; simp
  next hother =>
    refine ⟨fun hfalse => ?_, fun heval => absurd heval (hother true)⟩
    cases hfalse

/-! ### Comparisons -/

namespace Constraint

variable {o : Object} {field : Attribute} {value : Literal} {c : Constraint}

theorem above_le_iff {n m : Int64} (hlt : n < m) {k : Int64} : above n ≤ k ↔ n < k := by
  have hmax := m.toInt_le
  rw [Int64.toInt_maxValue] at hmax
  rw [Int64.lt_iff_toInt_lt] at hlt
  have hn := n.le_toInt
  have hne : n ≠ Int64.maxValue := by
    rintro rfl
    rw [Int64.toInt_maxValue] at hlt
    omega
  have hnext : (n + 1).toInt = n.toInt + 1 := by
    rw [Int64.toInt_add, Int64.toInt_one]
    exact Int.bmod_eq_of_le (by omega) (by omega)
  rw [above, if_neg hne, Int64.le_iff_toInt_le, hnext, Int64.lt_iff_toInt_lt]
  omega

theorem le_below_iff {n m : Int64} (hlt : m < n) {k : Int64} : k ≤ below n ↔ k < n := by
  have hmin := m.le_toInt
  rw [Int64.lt_iff_toInt_lt] at hlt
  have hn := n.toInt_le
  rw [Int64.toInt_maxValue] at hn
  have hne : n ≠ Int64.minValue := by
    rintro rfl
    rw [Int64.toInt_minValue] at hlt
    omega
  have hprevious : (n - 1).toInt = n.toInt - 1 := by
    rw [Int64.toInt_sub, Int64.toInt_one]
    exact Int.bmod_eq_of_le (by omega) (by omega)
  rw [below, if_neg hne, Int64.le_iff_toInt_le, hprevious, Int64.lt_iff_toInt_lt]
  omega

section

-- Derives the equations of the operators once, for all the proofs that rewrite with them.
attribute [local simp] applyBinary compareValues BinaryOp.holdsFor

variable {n : Int64}

theorem size_gt_eq_true : applyBinary .gt (Attribute.size.valueIn o) (Literal.int n).value =
    .ok (.bool true) ↔ n < o.size := by
  simp [Attribute.valueIn, Literal.value, Std.compare_eq_gt]

theorem size_ge_eq_true : applyBinary .ge (Attribute.size.valueIn o) (Literal.int n).value =
    .ok (.bool true) ↔ n ≤ o.size := by
  simp [Attribute.valueIn, Literal.value, Std.isGE_compare]

theorem size_lt_eq_true : applyBinary .lt (Attribute.size.valueIn o) (Literal.int n).value =
    .ok (.bool true) ↔ o.size < n := by
  simp [Attribute.valueIn, Literal.value, Std.compare_eq_lt]

theorem size_le_eq_true : applyBinary .le (Attribute.size.valueIn o) (Literal.int n).value =
    .ok (.bool true) ↔ o.size ≤ n := by
  simp [Attribute.valueIn, Literal.value, Std.isLE_compare]

end

theorem eq_eq_true : applyBinary .eq (field.valueIn o) value.value = .ok (.bool true) ↔
    field.valueIn o = value.value := by
  simp [applyBinary, Value.same_literal]

theorem holds_of_comparison {op : BinaryOp} (hc : ofComparison? field op value = some c)
    (htrue : applyBinary op (field.valueIn o) value.value = .ok (.bool true)) : c.Holds o := by
  unfold ofComparison? at hc
  split at hc <;> cases hc
  next => exact eq_eq_true.mp htrue
  next n =>
    have hlt := size_gt_eq_true.mp htrue
    exact (above_le_iff hlt).mpr hlt
  next n => exact size_ge_eq_true.mp htrue
  next n =>
    have hlt := size_lt_eq_true.mp htrue
    exact (le_below_iff hlt).mpr hlt
  next n => exact size_le_eq_true.mp htrue

/-- A comparison that is true of some object is true of every object that meets it. -/
theorem comparison_of_holds {o' : Object} {op : BinaryOp}
    (hc : ofComparison? field op value = some c)
    (htrue : applyBinary op (field.valueIn o) value.value = .ok (.bool true))
    (hholds : c.Holds o') :
    applyBinary op (field.valueIn o') value.value = .ok (.bool true) := by
  unfold ofComparison? at hc
  split at hc <;> cases hc
  next => exact eq_eq_true.mpr hholds
  next n =>
    exact size_gt_eq_true.mpr ((above_le_iff (size_gt_eq_true.mp htrue)).mp hholds)
  next n => exact size_ge_eq_true.mpr hholds
  next n =>
    exact size_lt_eq_true.mpr ((le_below_iff (size_lt_eq_true.mp htrue)).mp hholds)
  next n => exact size_le_eq_true.mpr hholds

theorem holdsFor_flip {op flipped : BinaryOp} (hflip : flip? op = some flipped)
    (order : Ordering) : flipped.holdsFor order.swap = op.holdsFor order := by
  cases op <;> cases hflip <;> cases order <;> rfl

theorem compareValues_flip {op flipped : BinaryOp} (hflip : flip? op = some flipped)
    (a b : Value) : compareValues flipped b a = compareValues op a b := by
  cases a <;> cases b <;> try rfl
  next n m =>
    rw [compareValues, compareValues, Std.OrientedOrd.eq_swap (a := m), holdsFor_flip hflip]
  next s t =>
    rw [compareValues, compareValues, Std.OrientedOrd.eq_swap (a := t), holdsFor_flip hflip]

theorem applyBinary_flip {op flipped : BinaryOp} (hflip : flip? op = some flipped) (v : Value) :
    applyBinary flipped v value.value = applyBinary op value.value v := by
  have hsame : v.same value.value = value.value.same v :=
    Bool.eq_iff_iff.mpr (Value.same_literal.trans Value.literal_same.symm)
  have hcompare := compareValues_flip hflip value.value v
  cases op <;> cases hflip <;> simp [applyBinary, hsame, hcompare]

theorem ofComparison?_ne {op : BinaryOp} (hc : ofComparison? field op value = some c) :
    op ≠ .and ∧ op ≠ .or := by
  refine ⟨?_, ?_⟩ <;> rintro rfl <;> cases hc

theorem flip?_ne {op flipped : BinaryOp} (hflip : flip? op = some flipped) :
    op ≠ .and ∧ op ≠ .or := by
  refine ⟨?_, ?_⟩ <;> rintro rfl <;> cases hflip

theorem ofComparison?_eq_equals {op : BinaryOp} {field' : Attribute} {value' : Literal}
    (hc : ofComparison? field op value = some (.equals field' value')) :
    op = .eq ∧ field' = field ∧ value' = value := by
  unfold ofComparison? at hc
  split at hc <;> cases hc
  exact ⟨rfl, rfl, rfl⟩

/-! ### Conditions and requirements -/

/-- An object that satisfies a condition meets what is asked for, unless it has a later item of a
list. -/
theorem Asks.holds {e : Expr} {cs : List Constraint} (hasks : Asks e cs)
    (htrue : eval (.single o) e = .ok (.bool true))
    (hlists : ∀ field first rest, e.Lists field first rest → field.valueIn o = first.value) :
    ∀ c ∈ cs, c.Holds o := by
  induction hasks with
  | always =>
      intro c hc
      cases hc
  | both _ _ ihleft ihright =>
      obtain ⟨hleft, hright⟩ := eval_and_iff.mp htrue
      refine List.forall_mem_append.mpr ⟨?_, ?_⟩
      · exact ihleft hleft fun field first rest h => hlists field first rest (.left h)
      · exact ihright hright fun field first rest h => hlists field first rest (.right h)
  | comparison hc =>
      obtain ⟨hand, hor⟩ := ofComparison?_ne hc
      rw [eval_operator hand hor] at htrue
      obtain ⟨left, hleft, htrue⟩ := bind_eq_ok htrue
      obtain ⟨right, hright, htrue⟩ := bind_eq_ok htrue
      obtain ⟨-, rfl⟩ := eval_attr_eq_ok hleft
      obtain rfl := Except.ok.inj hright
      exact List.forall_mem_singleton.mpr (holds_of_comparison hc htrue)
  | flipped hflip hc =>
      obtain ⟨hand, hor⟩ := flip?_ne hflip
      rw [eval_operator hand hor] at htrue
      obtain ⟨left, hleft, htrue⟩ := bind_eq_ok htrue
      obtain ⟨right, hright, htrue⟩ := bind_eq_ok htrue
      obtain rfl := Except.ok.inj hleft
      obtain ⟨-, rfl⟩ := eval_attr_eq_ok hright
      rw [← applyBinary_flip hflip] at htrue
      exact List.forall_mem_singleton.mpr (holds_of_comparison hc htrue)
  | membership => exact List.forall_mem_singleton.mpr (hlists _ _ _ .here)

/-- Without lists, a condition that some object satisfies asks for enough: every object that meets
what it asks for satisfies it. -/
theorem Asks.eval_of_holds {o' : Object} {e : Expr} {cs : List Constraint} (hasks : Asks e cs)
    (hlists : ∀ field first rest, ¬ e.Lists field first rest)
    (htrue : eval (.single o) e = .ok (.bool true)) (hholds : ∀ c ∈ cs, c.Holds o') :
    eval (.single o') e = .ok (.bool true) := by
  induction hasks with
  | always => rfl
  | both _ _ ihleft ihright =>
      obtain ⟨hleft, hright⟩ := eval_and_iff.mp htrue
      obtain ⟨hleftHolds, hrightHolds⟩ := List.forall_mem_append.mp hholds
      have hleft' := ihleft (fun field first rest h => hlists field first rest (.left h)) hleft
        hleftHolds
      have hright' := ihright (fun field first rest h => hlists field first rest (.right h)) hright
        hrightHolds
      exact eval_and_iff.mpr ⟨hleft', hright'⟩
  | comparison hc =>
      obtain ⟨hand, hor⟩ := ofComparison?_ne hc
      rw [eval_operator hand hor] at htrue ⊢
      obtain ⟨left, hleft, htrue⟩ := bind_eq_ok htrue
      obtain ⟨right, hright, htrue⟩ := bind_eq_ok htrue
      obtain ⟨rfl, rfl⟩ := eval_attr_eq_ok hleft
      obtain rfl := Except.ok.inj hright
      exact comparison_of_holds hc htrue (List.forall_mem_singleton.mp hholds)
  | flipped hflip hc =>
      obtain ⟨hand, hor⟩ := flip?_ne hflip
      rw [eval_operator hand hor] at htrue ⊢
      obtain ⟨left, hleft, htrue⟩ := bind_eq_ok htrue
      obtain ⟨right, hright, htrue⟩ := bind_eq_ok htrue
      obtain rfl := Except.ok.inj hleft
      obtain ⟨rfl, rfl⟩ := eval_attr_eq_ok hright
      rw [← applyBinary_flip hflip] at htrue
      have htrue' := comparison_of_holds hc htrue (List.forall_mem_singleton.mp hholds)
      rw [applyBinary_flip hflip] at htrue'
      exact htrue'
  | membership => exact absurd .here (hlists _ _ _)

theorem eval_attr_of_typed {subject : Variable} {t : Ty}
    (htype : typeOf .unary (.attr subject field) = .ok t) :
    eval (.single o) (.attr subject field) = .ok (field.valueIn o) := by
  obtain ⟨hbound, -⟩ := typeOf_attr_eq_ok htype
  cases subject with
  | obj => rfl
  | obj1 => cases hbound
  | obj2 => cases hbound

theorem eval_comparison {op : BinaryOp} {subject : Variable} {t : Ty} (hop : op ≠ .and ∧ op ≠ .or)
    (htype : typeOf .unary (.attr subject field) = .ok t) :
    eval (.single o) (.binary op (.attr subject field) (.literal value)) =
      applyBinary op (field.valueIn o) value.value := by
  rw [eval_operator hop.1 hop.2, eval_attr_of_typed htype]
  rfl

theorem eval_flipped {op flipped : BinaryOp} {subject : Variable} {t : Ty}
    (hflip : flip? op = some flipped) (htype : typeOf .unary (.attr subject field) = .ok t) :
    eval (.single o) (.binary op (.literal value) (.attr subject field)) =
      applyBinary flipped (field.valueIn o) value.value := by
  obtain ⟨hand, hor⟩ := flip?_ne hflip
  rw [applyBinary_flip hflip, eval_operator hand hor, eval_attr_of_typed htype]
  rfl

theorem eval_membership_eq_true {subject : Variable} {t : Ty} {first : Literal} {rest : List Expr}
    (htype : typeOf .unary (.attr subject field) = .ok t) (hfirst : field.valueIn o = first.value) :
    eval (.single o) (.binary .isIn (.attr subject field) (.list (.literal first :: rest))) =
      .ok (.bool true) ↔ ∃ values, evalItems (.single o) rest = .ok values := by
  rw [eval_operator (by decide) (by decide), eval_attr_of_typed htype, eval, evalItems]
  cases hrest : evalItems (.single o) rest with
  | error reason =>
      constructor
      · exact nofun
      · rintro ⟨values, ⟨⟩⟩
  | ok values =>
      refine iff_of_true ?_ ⟨values, rfl⟩
      change applyBinary .isIn (field.valueIn o) (.list (first.value :: values)) = _
      rw [applyBinary, Expr.membership, List.any_cons, Value.same_literal.mpr hfirst, Bool.true_or]

/-- An object that meets equations satisfies the condition that asks for them, unless the items of a
list have no value. -/
theorem Asks.eval_eq_true {e : Expr} {cs : List Constraint} (hasks : Asks e cs)
    (htype : typeOf .unary e = .ok .bool)
    (hequals : ∀ c ∈ cs, ∃ field value, c = .equals field value ∧ c.Holds o) :
    eval (.single o) e = .ok (.bool true) ∨
      ∃ field first rest reason, e.Lists field first rest ∧
        evalItems (.single o) rest = .error reason := by
  induction hasks with
  | always => exact .inl rfl
  | both _ _ ihleft ihright =>
      obtain ⟨leftTy, rightTy, hleftTy, hrightTy, hresult⟩ := typeOf_binary_eq_ok htype
      obtain ⟨rfl, rfl, -⟩ := BinaryOp.result?_connective (.inl rfl) hresult
      obtain ⟨hleftEquals, hrightEquals⟩ := List.forall_mem_append.mp hequals
      rcases ihleft hleftTy hleftEquals with hleft | ⟨field, first, rest, reason, hleft, hfails⟩
      · rcases ihright hrightTy hrightEquals with
          hright | ⟨field, first, rest, reason, hright, hfails⟩
        · exact .inl (eval_and_iff.mpr ⟨hleft, hright⟩)
        · exact .inr ⟨field, first, rest, reason, .right hright, hfails⟩
      · exact .inr ⟨field, first, rest, reason, .left hleft, hfails⟩
  | comparison hc =>
      obtain ⟨field, value, rfl, hholds⟩ := List.forall_mem_singleton.mp hequals
      obtain ⟨rfl, rfl, rfl⟩ := ofComparison?_eq_equals hc
      obtain ⟨leftTy, rightTy, hleftTy, -, -⟩ := typeOf_binary_eq_ok htype
      rw [eval_comparison (by decide) hleftTy]
      exact .inl (eq_eq_true.mpr hholds)
  | flipped hflip hc =>
      obtain ⟨field, value, rfl, hholds⟩ := List.forall_mem_singleton.mp hequals
      obtain ⟨rfl, rfl, rfl⟩ := ofComparison?_eq_equals hc
      obtain ⟨leftTy, rightTy, -, hrightTy, -⟩ := typeOf_binary_eq_ok htype
      rw [eval_flipped hflip hrightTy]
      exact .inl (eq_eq_true.mpr hholds)
  | @membership subject field first rest =>
      obtain ⟨_, _, hasked, hholds⟩ := List.forall_mem_singleton.mp hequals
      obtain ⟨rfl, rfl⟩ := Constraint.equals.inj hasked
      obtain ⟨leftTy, rightTy, hleftTy, -, -⟩ := typeOf_binary_eq_ok htype
      cases hrest : evalItems (.single o) rest with
      | error reason => exact .inr ⟨field, first, rest, reason, .here, hrest⟩
      | ok values => exact .inl ((eval_membership_eq_true hleftTy hholds).mpr ⟨values, hrest⟩)

end Constraint

theorem Predicate.asks_of_constraints? {p : Predicate} {cs : List Constraint}
    (hcs : p.constraints? = some cs) : p.arity = .unary ∧ Constraint.Asks p.root cs := by
  rw [Predicate.constraints?] at hcs
  split at hcs
  next hunary => exact ⟨hunary, Constraint.asks_of_ofExpr? hcs⟩
  next => cases hcs

end Apprentice
