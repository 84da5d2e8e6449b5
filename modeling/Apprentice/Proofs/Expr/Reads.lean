import Apprentice.Expr.Predicate

/-!
# What an expression reads

The value of an expression depends on an object only through the attributes that occur in it, so no
condition tells apart two objects that agree on what it reads.
-/

namespace Apprentice

open Apprentice.Expr

namespace Expr

mutual

def reads (field : Attribute) : Expr → Bool
  | .literal _ => false
  | .attr _ other => other == field
  | .index target position => reads field target || reads field position
  | .list items => anyReads field items
  | .unary _ operand => reads field operand
  | .binary _ left right => reads field left || reads field right
  | .call _ arguments => anyReads field arguments

def anyReads (field : Attribute) : List Expr → Bool
  | [] => false
  | e :: es => reads field e || anyReads field es

end

theorem eval_binary_congr {binding binding' : Binding} {op : BinaryOp} {left right : Expr}
    (hleft : eval binding left = eval binding' left)
    (hright : eval binding right = eval binding' right) :
    eval binding (.binary op left right) = eval binding' (.binary op left right) := by
  cases op <;> simp only [eval, hleft, hright]

variable {o o' : Object}

mutual

theorem eval_congr (e : Expr)
    (hagree : ∀ field, e.reads field = true → field.valueIn o = field.valueIn o') :
    eval (.single o) e = eval (.single o') e := by
  match e with
  | .literal l => rw [eval, eval]
  | .attr subject field =>
      have hfield : field.valueIn o = field.valueIn o' := hagree field (by simp [reads])
      cases subject with
      | obj => exact congrArg Except.ok hfield
      | obj1 => rfl
      | obj2 => rfl
  | .index target position =>
      have htarget := eval_congr target fun field h => hagree field (by simp [reads, h])
      have hposition := eval_congr position fun field h => hagree field (by simp [reads, h])
      rw [eval, eval, htarget, hposition]
  | .list items =>
      rw [eval, eval, evalItems_congr items fun field h => hagree field (by simp [reads, h])]
  | .unary op operand =>
      rw [eval, eval, eval_congr operand fun field h => hagree field (by simp [reads, h])]
  | .binary op left right =>
      refine eval_binary_congr ?_ ?_
      · exact eval_congr left fun field h => hagree field (by simp [reads, h])
      · exact eval_congr right fun field h => hagree field (by simp [reads, h])
  | .call function arguments =>
      rw [eval, eval, evalItems_congr arguments fun field h => hagree field (by simp [reads, h])]

theorem evalItems_congr (es : List Expr)
    (hagree : ∀ field, anyReads field es = true → field.valueIn o = field.valueIn o') :
    evalItems (.single o) es = evalItems (.single o') es := by
  match es with
  | [] => rw [evalItems, evalItems]
  | e :: rest =>
      have he := eval_congr e fun field h => hagree field (by simp [anyReads, h])
      have hrest := evalItems_congr rest fun field h => hagree field (by simp [anyReads, h])
      rw [evalItems, evalItems, he, hrest]

end

end Expr

theorem Predicate.test_congr {p : Predicate} {o o' : Object}
    (hagree : ∀ field, p.root.reads field = true → field.valueIn o = field.valueIn o') :
    p.test o = p.test o' := by
  rw [Predicate.test, Predicate.test, Predicate.truth, Predicate.truth, eval_congr p.root hagree]

end Apprentice
