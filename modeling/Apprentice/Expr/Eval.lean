import Apprentice.Expr.Typing
import Apprentice.Text.Substring
import Apprentice.World.Object

/-!
# Evaluation

The value of an expression for the objects that its variables stand for. Arithmetic is that of
64-bit words with overflow as an error; a missing coordinate or character is the value `null`, which
arithmetic passes on and which no comparison orders.
-/

namespace Apprentice.Expr

inductive Value where
  | bool (value : Bool)
  | int (value : Int64)
  | str (value : String)
  | pos (cell : Cell)
  | list (items : List Value)
  | null
  deriving Repr

mutual

/-- Equality of values, item by item in lists. -/
def Value.same : Value → Value → Bool
  | .bool a, .bool b => a == b
  | .int a, .int b => a == b
  | .str a, .str b => a == b
  | .pos a, .pos b => a == b
  | .list a, .list b => Value.sameItems a b
  | .null, .null => true
  | _, _ => false

def Value.sameItems : List Value → List Value → Bool
  | [], [] => true
  | a :: as, b :: bs => a.same b && Value.sameItems as bs
  | _, _ => false

end

def Value.isTrue : Value → Bool
  | .bool true => true
  | _ => false

inductive EvalError where
  | unbound (subject : Variable)
  | divisionByZero
  | overflow
  | illTyped
  deriving DecidableEq, Repr

/-- The objects that the variables stand for. -/
inductive Binding where
  | single (object : Object)
  | pair (left right : Object)
  deriving Repr

def Binding.object? : Binding → Variable → Option Object
  | single object, .obj => some object
  | pair left _, .obj1 => some left
  | pair _ right, .obj2 => some right
  | _, _ => none

def Attribute.valueIn (o : Object) : Attribute → Value
  | name => .str o.name
  | shape => .str o.shape
  | color => .str o.color
  | size => .int o.size
  | material => .str o.material
  | position =>
    match o.position with
    | some cell => .pos cell
    | none => .null
  | owner => .str o.owner.label

def Literal.value : Literal → Value
  | bool b => .bool b
  | int n => .int n
  | str s => .str s
  | null => .null

/-- The word with the given integer value, if there is one. -/
def checked (n : Int) : Except EvalError Int64 :=
  if Int64.minValue.toInt ≤ n ∧ n ≤ Int64.maxValue.toInt then .ok (Int64.ofInt n)
  else .error .overflow

/-- Integer arithmetic. Division is Euclidean, so remainders are never negative, and a remainder
overflows where its quotient does. -/
def arithmetic (op : BinaryOp) (a b : Int64) : Except EvalError Int64 :=
  match op with
  | .add => checked (a.toInt + b.toInt)
  | .sub => checked (a.toInt - b.toInt)
  | .mul => checked (a.toInt * b.toInt)
  | .div => if b = 0 then .error .divisionByZero else checked (a.toInt / b.toInt)
  | .rem =>
    if b = 0 then .error .divisionByZero
    else do
      let _ ← checked (a.toInt / b.toInt)
      checked (a.toInt % b.toInt)
  | _ => .error .illTyped

/-- The truth of a comparison, given how the left operand lies to the right one. -/
def BinaryOp.holdsFor : BinaryOp → Ordering → Bool
  | lt, order => order.isLT
  | le, order => order.isLE
  | gt, order => order.isGT
  | ge, order => order.isGE
  | _, _ => false

/-- Texts are ordered character by character, by code point. -/
def compareValues (op : BinaryOp) : Value → Value → Bool
  | .int a, .int b => op.holdsFor (compare a b)
  | .str a, .str b => op.holdsFor (compare a b)
  | _, _ => false

def membership : Value → Value → Bool
  | item, .list items => items.any fun other => item.same other
  | .str needle, .str text => Text.occursIn needle.toList text.toList
  | _, _ => false

/-- A binary operation on two values; the connectives, which may skip their right operand, are not
among them. -/
def applyBinary (op : BinaryOp) (left right : Value) : Except EvalError Value :=
  match op with
  | .eq => .ok (.bool (left.same right))
  | .ne => .ok (.bool (!left.same right))
  | .lt | .le | .gt | .ge => .ok (.bool (compareValues op left right))
  | .isIn => .ok (.bool (membership left right))
  | .add | .sub | .mul | .div | .rem =>
    match left, right with
    | .int a, .int b => return .int (← arithmetic op a b)
    | .str a, .str b => if op = .add then .ok (.str (a ++ b)) else .error .illTyped
    | .null, _ | _, .null => .ok .null
    | _, _ => .error .illTyped
  | .and | .or => .error .illTyped

def applyUnary : UnaryOp → Value → Except EvalError Value
  | .not, .bool b => .ok (.bool !b)
  | .neg, .int n => return .int (← checked (-n.toInt))
  | _, .null => .ok .null
  | _, _ => .error .illTyped

/-- The character of a text at an index, or the coordinate of a position; `null` outside. -/
def applyIndex (target : Value) (index : Int64) : Value :=
  match target with
  | .pos cell => if index = 0 then .int cell.x else if index = 1 then .int cell.y else .null
  | .str s =>
    if index < 0 then .null
    else
      match s.toList[index.toInt.toNat]? with
      | some c => .str c.toString
      | none => .null
  | _ => .null

/-- The values as integers, if all of them are. -/
def intValues : List Value → Except EvalError (List Int64)
  | [] => .ok []
  | .int n :: values => return n :: (← intValues values)
  | _ :: _ => .error .illTyped

def applyFunction (function : Function) (arguments : List Value) : Except EvalError Value :=
  match function with
  | .len =>
    match arguments.head? with
    | some (.str s) => .ok (.int (Int64.ofNat s.length))
    | some (.list items) => .ok (.int (Int64.ofNat items.length))
    | _ => .error .illTyped
  | .abs => do
    match ← intValues arguments with
    | [n] => return .int (← checked n.toInt.natAbs)
    | _ => .error .illTyped
  | .min => do
    match ← intValues arguments with
    | n :: ns => return .int (ns.foldl min n)
    | [] => .error .illTyped
  | .max => do
    match ← intValues arguments with
    | n :: ns => return .int (ns.foldl max n)
    | [] => .error .illTyped

mutual

/-- The value of an expression. `and` and `or` leave out a right operand that decides nothing. -/
def eval (binding : Binding) : Expr → Except EvalError Value
  | .literal l => .ok l.value
  | .attr subject field =>
    match binding.object? subject with
    | some o => .ok (field.valueIn o)
    | none => .error (.unbound subject)
  | .index target position => do
    let targetValue ← eval binding target
    match ← eval binding position with
    | .int n => return applyIndex targetValue n
    | _ => .error .illTyped
  | .list items => return .list (← evalItems binding items)
  | .unary op operand => do applyUnary op (← eval binding operand)
  | .binary .and left right => do
    let leftValue ← eval binding left
    if leftValue.isTrue then
      let rightValue ← eval binding right
      return .bool rightValue.isTrue
    else
      return .bool false
  | .binary .or left right => do
    let leftValue ← eval binding left
    if leftValue.isTrue then
      return .bool true
    else
      let rightValue ← eval binding right
      return .bool rightValue.isTrue
  | .binary op left right => do
    let leftValue ← eval binding left
    let rightValue ← eval binding right
    applyBinary op leftValue rightValue
  | .call function arguments => do applyFunction function (← evalItems binding arguments)

def evalItems (binding : Binding) : List Expr → Except EvalError (List Value)
  | [] => .ok []
  | e :: es => do
    let value ← eval binding e
    let values ← evalItems binding es
    return value :: values

end

end Apprentice.Expr
