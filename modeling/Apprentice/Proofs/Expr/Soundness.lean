import Apprentice.Proofs.Expr.Typing
import Mathlib.Data.List.Forall2

/-!
# Typed expressions evaluate well

The type of an expression is a promise about its value. A condition is a truth value and nothing
else; a text or an integer may be missing, but only where a subscript reads it; a position is
missing for an object in a container. The promise is kept form by form: `Outcome` says what may
come of an evaluation, and it passes from a step to the steps that follow.
-/

namespace Apprentice

namespace Expr

/-! ### What may come of an evaluation -/

def Binding.arity : Binding → Arity
  | single _ => .unary
  | pair _ _ => .binary

def Value.ty : Value → Ty
  | .bool _ => .bool
  | .int _ => .int
  | .str _ => .str
  | .pos _ => .pos
  | .list _ => .list
  | .null => .null

mutual

/-- Whether an expression has no subscript in it. -/
def indexFree : Expr → Bool
  | .literal _ | .attr _ _ => true
  | .index _ _ => false
  | .list items => allIndexFree items
  | .unary _ operand => indexFree operand
  | .binary _ left right => indexFree left && indexFree right
  | .call _ arguments => allIndexFree arguments

def allIndexFree : List Expr → Bool
  | [] => true
  | e :: es => indexFree e && allIndexFree es

end

/-- Values that an expression of a type may have. Integers and texts are missing only if there
are subscripts. -/
inductive Value.Has (indexed : Prop) : Value → Ty → Prop
  | bool (b : Bool) : Has indexed (.bool b) .bool
  | int (n : Int64) : Has indexed (.int n) .int
  | str (s : String) : Has indexed (.str s) .str
  | pos (cell : Cell) : Has indexed (.pos cell) .pos
  | list (items : List Value) : Has indexed (.list items) .list
  | null : Has indexed .null .null
  | noPosition : Has indexed .null .pos
  | noInt (hindexed : indexed) : Has indexed .null .int
  | noStr (hindexed : indexed) : Has indexed .null .str

/-- What may come of an evaluation: a value as promised, or an error of the arithmetic. A variable
stands for nothing only if the binding is not for the expression, and types clash only if there are
subscripts. -/
inductive Outcome (bound indexed : Prop) {α : Type} (promised : α → Prop) :
    Except EvalError α → Prop
  | value {a : α} (ha : promised a) : Outcome bound indexed promised (.ok a)
  | unbound (subject : Variable) (hbound : ¬ bound) :
      Outcome bound indexed promised (.error (.unbound subject))
  | divisionByZero : Outcome bound indexed promised (.error .divisionByZero)
  | overflow : Outcome bound indexed promised (.error .overflow)
  | illTyped (hindexed : indexed) : Outcome bound indexed promised (.error .illTyped)

variable {arity : Arity} {binding : Binding} {t : Ty} {bound indexed : Prop}

theorem Outcome.bind {α β : Type} {before : α → Prop} {after : β → Prop} {x : Except EvalError α}
    {f : α → Except EvalError β} (hx : Outcome bound indexed before x)
    (hf : ∀ a, before a → Outcome bound indexed after (f a)) :
    Outcome bound indexed after (x >>= f) := by
  cases hx with
  | value ha => exact hf _ ha
  | unbound subject hbound => exact .unbound subject hbound
  | divisionByZero => exact .divisionByZero
  | overflow => exact .overflow
  | illTyped hindexed => exact .illTyped hindexed

theorem Value.Has.ty_eq {v : Value} (hv : v.Has indexed t) :
    v.ty = t ∨ (v = .null ∧ (t = .int ∨ t = .str ∨ t = .pos ∨ t = .null)) := by
  cases hv <;> simp [Value.ty]

theorem Value.Has.eq_bool {v : Value} (hv : v.Has indexed .bool) : ∃ b, v = .bool b := by
  cases hv with
  | bool b => exact ⟨b, rfl⟩

/-! ### Leaves -/

theorem Literal.value_has (l : Literal) : l.value.Has indexed l.ty := by
  cases l with
  | bool b => exact .bool b
  | int n => exact .int n
  | str s => exact .str s
  | null => exact .null

theorem Attribute.valueIn_has (field : Attribute) (o : Object) :
    (field.valueIn o).Has indexed field.ty := by
  cases field with
  | size => exact .int o.size
  | position =>
      cases hposition : o.position with
      | none => simpa [Attribute.valueIn, hposition] using .noPosition
      | some cell => simpa [Attribute.valueIn, hposition] using .pos cell
  | _ => exact .str _

theorem Binding.exists_object {subject : Variable}
    (hsubject : subject.boundBy binding.arity = true) : ∃ o, binding.object? subject = some o := by
  cases binding <;> cases subject <;> first | exact ⟨_, rfl⟩ | cases hsubject

/-! ### Operators and functions -/

theorem checked_outcome (n : Int) : Outcome bound indexed (fun _ => True) (checked n) := by
  unfold checked
  split
  · exact .value trivial
  · exact .overflow

theorem arithmetic_outcome {op : BinaryOp} (a b : Int64)
    (hop : op = .add ∨ op = .sub ∨ op = .mul ∨ op = .div ∨ op = .rem) :
    Outcome bound indexed (fun _ => True) (arithmetic op a b) := by
  rcases hop with rfl | rfl | rfl | rfl | rfl
  · exact checked_outcome _
  · exact checked_outcome _
  · exact checked_outcome _
  · rw [arithmetic]
    split
    · exact .divisionByZero
    · exact checked_outcome _
  · rw [arithmetic]
    split
    · exact .divisionByZero
    · exact (checked_outcome _).bind fun _ _ => checked_outcome _

/-- Arithmetic on integers; a missing one makes the result missing. -/
theorem applyBinary_int_outcome {op : BinaryOp} {left right : Value}
    (hop : op = .add ∨ op = .sub ∨ op = .mul ∨ op = .div ∨ op = .rem)
    (hleft : left.Has indexed .int) (hright : right.Has indexed .int) :
    Outcome bound indexed (Value.Has indexed · .int) (applyBinary op left right) := by
  have hnull : ∀ other : Value, indexed → (applyBinary op .null other = .ok .null ∧
      applyBinary op other .null = .ok .null) := by
    rintro other -
    rcases hop with rfl | rfl | rfl | rfl | rfl <;> cases other <;> exact ⟨rfl, rfl⟩
  cases hleft with
  | noInt hindexed =>
      rw [(hnull right hindexed).1]
      exact .value (.noInt hindexed)
  | int a =>
      cases hright with
      | noInt hindexed =>
          rw [(hnull (.int a) hindexed).2]
          exact .value (.noInt hindexed)
      | int b =>
          have happly : applyBinary op (.int a) (.int b) =
              (arithmetic op a b >>= fun n => .ok (.int n)) := by
            rcases hop with rfl | rfl | rfl | rfl | rfl <;> rfl
          rw [happly]
          exact (arithmetic_outcome a b hop).bind fun n _ => .value (.int n)

theorem applyBinary_str_outcome {left right : Value} (hleft : left.Has indexed .str)
    (hright : right.Has indexed .str) :
    Outcome bound indexed (Value.Has indexed · .str) (applyBinary .add left right) := by
  cases hleft with
  | noStr hindexed => cases hright <;> exact .value (.noStr hindexed)
  | str a =>
      cases hright with
      | noStr hindexed => exact .value (.noStr hindexed)
      | str b => exact .value (.str (a ++ b))

theorem applyBinary_outcome {op : BinaryOp} {left right : Value} {leftTy rightTy : Ty}
    (hand : op ≠ .and) (hor : op ≠ .or) (hresult : op.result? leftTy rightTy = some t)
    (hleft : left.Has indexed leftTy) (hright : right.Has indexed rightTy) :
    Outcome bound indexed (Value.Has indexed · t) (applyBinary op left right) := by
  unfold BinaryOp.result? at hresult
  split at hresult
  case h_1 | h_2 => contradiction
  case h_3 | h_4 =>
    split at hresult <;> cases hresult
    exact .value (.bool _)
  all_goals cases hresult
  all_goals first
    | exact .value (.bool _)
    | exact applyBinary_int_outcome (by decide) hleft hright
    | exact applyBinary_str_outcome hleft hright

theorem applyUnary_outcome {op : UnaryOp} {operand : Value} {ty : Ty}
    (hresult : op.result? ty = some t) (hoperand : operand.Has indexed ty) :
    Outcome bound indexed (Value.Has indexed · t) (applyUnary op operand) := by
  unfold UnaryOp.result? at hresult
  split at hresult
  next =>
    cases hresult
    cases hoperand
    exact .value (.bool _)
  next =>
    cases hresult
    cases hoperand with
    | int n => exact (checked_outcome _).bind fun n _ => .value (.int n)
    | noInt hindexed => exact .value (.noInt hindexed)
  next => cases hresult

theorem applyIndex_has {target : Value} {targetTy : Ty} (index : Int64) (hindexed : indexed)
    (htarget : target.Has indexed targetTy)
    (ht : (targetTy = .pos ∧ t = .int) ∨ (targetTy = .str ∧ t = .str)) :
    (applyIndex target index).Has indexed t := by
  rcases ht with ⟨rfl, rfl⟩ | ⟨rfl, rfl⟩
  · cases htarget with
    | noPosition => exact .noInt hindexed
    | pos cell =>
        rw [applyIndex]
        split
        · exact .int cell.x
        · split
          · exact .int cell.y
          · exact .noInt hindexed
  · cases htarget with
    | noStr _ => exact .noStr hindexed
    | str s =>
        rw [applyIndex]
        split
        · exact .noStr hindexed
        · split
          · exact .str _
          · exact .noStr hindexed

theorem intValues_outcome {values : List Value} {tys : List Ty} (htys : ∀ ty ∈ tys, ty = .int)
    (hvalues : List.Forall₂ (Value.Has indexed) values tys) :
    Outcome bound indexed (fun ns : List Int64 => ns.length = tys.length) (intValues values) := by
  induction hvalues with
  | nil => exact .value rfl
  | cons hvalue _ ih =>
      obtain ⟨rfl, hrest⟩ := List.forall_mem_cons.mp htys
      cases hvalue with
      | noInt hindexed => exact .illTyped hindexed
      | int n =>
          rw [intValues]
          refine (ih hrest).bind fun ns hns => .value ?_
          simp [hns]

theorem chosen_outcome {function : Function} {values : List Value} {tys : List Ty}
    (hfunction : function = .min ∨ function = .max) (hne : tys ≠ [])
    (htys : ∀ ty ∈ tys, ty = .int) (hvalues : List.Forall₂ (Value.Has indexed) values tys) :
    Outcome bound indexed (Value.Has indexed · .int) (applyFunction function values) := by
  rcases hfunction with rfl | rfl
  all_goals
    refine (intValues_outcome htys hvalues).bind fun ns hns => ?_
    cases ns with
    | nil => exact absurd (List.length_eq_zero_iff.mp hns.symm) hne
    | cons n ns => exact .value (.int _)

theorem applyFunction_outcome {function : Function} {values : List Value} {tys : List Ty}
    (hresult : function.result? tys = some t)
    (hvalues : List.Forall₂ (Value.Has indexed) values tys) :
    Outcome bound indexed (Value.Has indexed · t) (applyFunction function values) := by
  have hintegers : ∀ {tys : List Ty}, (if tys ≠ [] ∧ tys.all (· == .int) then some Ty.int else none)
      = some t → tys ≠ [] ∧ (∀ ty ∈ tys, ty = .int) ∧ t = .int := by
    intro tys htys
    split at htys
    next hall => exact ⟨hall.1, by simpa using hall.2, (Option.some.inj htys).symm⟩
    next => cases htys
  unfold Function.result? at hresult
  split at hresult
  next =>
    cases hresult
    refine (intValues_outcome (by simp) hvalues).bind fun ns hns => ?_
    obtain ⟨n, rfl⟩ := List.length_eq_one_iff.mp hns
    exact (checked_outcome _).bind fun n _ => .value (.int n)
  next =>
    cases hresult
    cases hvalues with
    | cons hvalue _ =>
        cases hvalue with
        | str s => exact .value (.int _)
        | noStr hindexed => exact .illTyped hindexed
  next =>
    cases hresult
    cases hvalues with
    | cons hvalue _ =>
        cases hvalue with
        | list items => exact .value (.int _)
  next =>
    obtain ⟨hne, htys, rfl⟩ := hintegers hresult
    exact chosen_outcome (.inl rfl) hne htys hvalues
  next =>
    obtain ⟨hne, htys, rfl⟩ := hintegers hresult
    exact chosen_outcome (.inr rfl) hne htys hvalues
  next => cases hresult

/-! ### Evaluation -/

/-- The connectives look at their operands one after the other. -/
theorem eval_connective {op : BinaryOp} {left right : Expr} (hop : op = .and ∨ op = .or)
    (hleft : Outcome bound indexed (Value.Has indexed · .bool) (eval binding left))
    (hright : Outcome bound indexed (Value.Has indexed · .bool) (eval binding right)) :
    Outcome bound indexed (Value.Has indexed · .bool) (eval binding (.binary op left right)) := by
  rcases hop with rfl | rfl
  all_goals
    rw [eval]
    refine hleft.bind fun leftValue _ => ?_
    split
    all_goals first
      | exact .value (.bool _)
      | exact hright.bind fun rightValue _ => .value (.bool _)

theorem eval_operator {op : BinaryOp} {left right : Expr} (hand : op ≠ .and) (hor : op ≠ .or) :
    eval binding (.binary op left right) = (do
      let leftValue ← eval binding left
      let rightValue ← eval binding right
      applyBinary op leftValue rightValue) := by
  cases op <;> first | contradiction | rfl

mutual

theorem eval_outcome (e : Expr) {t : Ty} (htype : typeOf arity e = .ok t)
    (hindexed : e.indexFree = false → indexed) :
    Outcome (binding.arity = arity) indexed (Value.Has indexed · t) (eval binding e) := by
  match e with
  | .literal l =>
      rw [typeOf] at htype
      obtain rfl := Except.ok.inj htype
      exact .value l.value_has
  | .attr subject field =>
      obtain ⟨hsubject, rfl⟩ := typeOf_attr_eq_ok htype
      rw [eval]
      split
      next o _ => exact .value (field.valueIn_has o)
      next hnone =>
        refine .unbound subject fun harity => ?_
        subst harity
        obtain ⟨o, hsome⟩ := Binding.exists_object hsubject
        cases hnone.symm.trans hsome
  | .index target position =>
      obtain ⟨targetTy, htarget, hposition, ht⟩ := typeOf_index_eq_ok htype
      have hhere : indexed := hindexed rfl
      rw [eval]
      refine (eval_outcome target htarget fun _ => hhere).bind fun targetValue htargetValue => ?_
      refine (eval_outcome position hposition fun _ => hhere).bind fun positionValue hvalue => ?_
      cases hvalue with
      | int n => exact .value (applyIndex_has n hhere htargetValue ht)
      | noInt _ => exact .illTyped hhere
  | .list items =>
      obtain ⟨⟨tys, hitems⟩, rfl⟩ := typeOf_list_eq_ok htype
      rw [eval]
      exact (evalItems_outcome items hitems hindexed).bind fun values _ => .value (.list values)
  | .unary op operand =>
      obtain ⟨ty, hoperand, hresult⟩ := typeOf_unary_eq_ok htype
      rw [eval]
      exact (eval_outcome operand hoperand hindexed).bind fun value hvalue =>
        applyUnary_outcome hresult hvalue
  | .binary op left right =>
      obtain ⟨leftTy, rightTy, hleft, hright, hresult⟩ := typeOf_binary_eq_ok htype
      have hsides : (left.indexFree = false → indexed) ∧ (right.indexFree = false → indexed) := by
        refine ⟨fun hfree => hindexed ?_, fun hfree => hindexed ?_⟩ <;> simp [indexFree, hfree]
      have hleftOutcome := eval_outcome left hleft hsides.1
      have hrightOutcome := eval_outcome right hright hsides.2
      by_cases hop : op = .and ∨ op = .or
      · obtain ⟨rfl, rfl, rfl⟩ := BinaryOp.result?_connective hop hresult
        exact eval_connective hop hleftOutcome hrightOutcome
      · obtain ⟨hand, hor⟩ := not_or.mp hop
        rw [eval_operator hand hor]
        exact hleftOutcome.bind fun leftValue hleftValue =>
          hrightOutcome.bind fun rightValue hrightValue =>
            applyBinary_outcome hand hor hresult hleftValue hrightValue
  | .call function arguments =>
      obtain ⟨tys, harguments, hresult⟩ := typeOf_call_eq_ok htype
      rw [eval]
      exact (evalItems_outcome arguments harguments hindexed).bind fun values hvalues =>
        applyFunction_outcome hresult hvalues

theorem evalItems_outcome (es : List Expr) {tys : List Ty} (htypes : typesOf arity es = .ok tys)
    (hindexed : allIndexFree es = false → indexed) :
    Outcome (binding.arity = arity) indexed (List.Forall₂ (Value.Has indexed) · tys)
      (evalItems binding es) := by
  match es with
  | [] =>
      rw [typesOf] at htypes
      obtain rfl := Except.ok.inj htypes
      exact .value .nil
  | e :: rest =>
      obtain ⟨ty, restTys, hty, hrest, rfl⟩ := typesOf_cons_eq_ok htypes
      rw [evalItems]
      refine (eval_outcome e hty fun hfree => hindexed ?_).bind fun value hvalue => ?_
      · simp [allIndexFree, hfree]
      · refine (evalItems_outcome rest hrest fun hfree => hindexed ?_).bind fun values hvalues => ?_
        · simp [allIndexFree, hfree]
        · exact .value (.cons hvalue hvalues)

end

end Expr

/-! ### Type soundness -/

open Apprentice.Expr

/-- A compiled predicate evaluates to a truth value, or fails and counts as false. -/
theorem Predicate.eval_compiled {arity : Arity} {source : String} {p : Predicate}
    (hcompile : Predicate.compile arity source = .ok p) (binding : Binding) :
    (∃ b, eval binding p.root = .ok (.bool b) ∧ p.truth binding = b) ∨
      (∃ reason, eval binding p.root = .error reason ∧ p.truth binding = false) := by
  obtain ⟨-, htype⟩ := Predicate.compile_eq_ok hcompile
  have houtcome : Outcome (binding.arity = arity) True (Value.Has True · .bool)
      (eval binding p.root) := eval_outcome p.root htype fun _ => trivial
  cases heval : eval binding p.root with
  | error reason => exact .inr ⟨reason, rfl, by rw [Predicate.truth, heval]⟩
  | ok v =>
      rw [heval] at houtcome
      cases houtcome with
      | value hv =>
          obtain ⟨b, rfl⟩ := hv.eq_bool
          exact .inl ⟨b, rfl, by rw [Predicate.truth, heval]⟩

/-- An expression that has a type keeps its promise for all objects. With a binding of its arity, no
variable is unbound. Its value has its type or is missing, which truth values and lists never are.
And without subscripts only the arithmetic can fail. So a compiled predicate that comes to a value
comes to a truth value. -/
theorem Expr.eval_typed :
    (∀ (arity : Arity) (e : Expr) (t : Ty), typeOf arity e = .ok t →
      ∀ binding : Binding, binding.arity = arity →
        (∀ subject, eval binding e ≠ .error (.unbound subject)) ∧
        (∀ v, eval binding e = .ok v →
          v.ty = t ∨ (v = .null ∧ (t = .int ∨ t = .str ∨ t = .pos ∨ t = .null))) ∧
        (e.indexFree = true → ∀ reason, eval binding e = .error reason →
          reason = .divisionByZero ∨ reason = .overflow)) ∧
    ∀ (arity : Arity) (source : String) (p : Predicate), Predicate.compile arity source = .ok p →
      ∀ (binding : Binding) (v : Value), eval binding p.root = .ok v → ∃ b, v = .bool b := by
  refine ⟨fun arity e t htype binding harity => ?_, fun arity source p hcompile binding v hv => ?_⟩
  · have houtcome : Outcome (binding.arity = arity) (e.indexFree = false)
        (Value.Has (e.indexFree = false) · t) (eval binding e) := eval_outcome e htype id
    refine ⟨fun subject hunbound => ?_, fun v hv => ?_, fun hfree reason herror => ?_⟩
    · rw [hunbound] at houtcome
      cases houtcome with
      | unbound _ hbound => exact hbound harity
    · rw [hv] at houtcome
      cases houtcome with
      | value hhas => exact hhas.ty_eq
    · rw [herror] at houtcome
      cases houtcome with
      | unbound _ hbound => exact absurd harity hbound
      | divisionByZero => exact .inl rfl
      | overflow => exact .inr rfl
      | illTyped hindexed => exact absurd (hindexed.symm.trans hfree) Bool.false_ne_true
  · rcases Predicate.eval_compiled hcompile binding with ⟨b, hb, -⟩ | ⟨reason, hreason, -⟩
    · exact ⟨b, Except.ok.inj (hv.symm.trans hb)⟩
    · cases hv.symm.trans hreason

/-- The sum of a missing coordinate and a size is missing, and a condition that divides by zero is a
condition all the same. -/
theorem Expr.eval_typed_of_stored :
    let stored : Object := ⟨1, "coin", "disc", "gold", 1, "metal", none, .user⟩
    let sum : Expr := .binary .add (.index (.attr .obj .position) (.literal (.int 0)))
      (.attr .obj .size)
    (typeOf .unary sum = .ok .int ∧ (Binding.single stored).arity = .unary ∧
      eval (.single stored) sum = .ok .null ∧ ∀ subject, eval (.single stored) sum ≠
        .error (.unbound subject)) ∧
    ∃ p, Predicate.compile .unary "1 / 0 > 1" = .ok p ∧
      ∀ (binding : Binding) (v : Value), eval binding p.root = .ok v → ∃ b, v = .bool b := by
  refine ⟨⟨rfl, rfl, rfl, (Expr.eval_typed.1 .unary _ .int rfl (.single _) rfl).1⟩, ?_⟩
  have htokens : tokenize "1 / 0 > 1" =
      .ok [⟨.int 1, 0⟩, ⟨.slash, 2⟩, ⟨.int 0, 4⟩, ⟨.gt, 6⟩, ⟨.int 1, 8⟩] := by
    decide +kernel
  have hcompile : Predicate.compile .unary "1 / 0 > 1" = .ok _ :=
    Predicate.compile_of_parse (n := 9) htokens rfl (by cbv) rfl rfl
  exact ⟨_, hcompile, Expr.eval_typed.2 .unary _ _ hcompile⟩

end Apprentice
