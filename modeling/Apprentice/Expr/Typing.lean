import Apprentice.Expr.Error

/-!
# Types of expressions

Checking an expression before it is ever evaluated: the variables must be those of the arity, and
operators and functions must get operands that they can combine.
-/

namespace Apprentice.Expr

def Attribute.ty : Attribute → Ty
  | size => .int
  | position => .pos
  | name | shape | color | material | owner => .str

def Literal.ty : Literal → Ty
  | bool _ => .bool
  | int _ => .int
  | str _ => .str
  | null => .null

/-- The variables that a condition of the given arity binds. -/
def Variable.boundBy (subject : Variable) : Arity → Bool
  | .unary => subject == obj
  | .binary => subject == obj1 || subject == obj2

/-- The type of a binary operation, if its operands may be combined. -/
def BinaryOp.result? : BinaryOp → Ty → Ty → Option Ty
  | and, .bool, .bool | or, .bool, .bool => some .bool
  | eq, left, right | ne, left, right =>
    if left = right ∨ left = .null ∨ right = .null then some .bool else none
  | lt, .int, .int | le, .int, .int | gt, .int, .int | ge, .int, .int => some .bool
  | lt, .str, .str | le, .str, .str | gt, .str, .str | ge, .str, .str => some .bool
  | add, .int, .int | sub, .int, .int | mul, .int, .int | div, .int, .int | rem, .int, .int =>
    some .int
  | add, .str, .str => some .str
  | isIn, _, .list | isIn, .str, .str => some .bool
  | _, _, _ => none

def UnaryOp.result? : UnaryOp → Ty → Option Ty
  | not, .bool => some .bool
  | neg, .int => some .int
  | _, _ => none

/-- The type of a call, if the function takes arguments of these types. -/
def Function.result? : Function → List Ty → Option Ty
  | abs, [.int] => some .int
  | len, [.str] | len, [.list] => some .int
  | min, tys | max, tys => if tys ≠ [] ∧ tys.all (· == .int) then some .int else none
  | _, _ => none

/-- The type of a subscript. A position has two coordinates, so an index that is written out must
be zero or one. -/
def indexType (target : Ty) (position : Expr) (index : Ty) : Except Error Ty :=
  if index ≠ .int then .error (.typeMismatch (.index target index))
  else
    match target, position with
    | .pos, .literal (.int n) =>
      if 0 ≤ n ∧ n ≤ 1 then .ok .int else .error (.typeMismatch (.coordinate n))
    | .pos, _ => .ok .int
    | .str, _ => .ok .str
    | other, _ => .error (.typeMismatch (.index other index))

mutual

/-- The type of an expression; operands are checked from left to right. -/
def typeOf (arity : Arity) : Expr → Except Error Ty
  | .literal value => .ok value.ty
  | .attr subject field =>
    if subject.boundBy arity then .ok field.ty else .error (.wrongVariable subject arity)
  | .index target position => do
    let targetTy ← typeOf arity target
    let positionTy ← typeOf arity position
    indexType targetTy position positionTy
  | .list items => do
    let _ ← typesOf arity items
    return .list
  | .unary op operand => do
    let ty ← typeOf arity operand
    match op.result? ty with
    | some result => .ok result
    | none => .error (.typeMismatch (.operand op ty))
  | .binary op left right => do
    let leftTy ← typeOf arity left
    let rightTy ← typeOf arity right
    match op.result? leftTy rightTy with
    | some result => .ok result
    | none => .error (.typeMismatch (.operands op leftTy rightTy))
  | .call function arguments => do
    let tys ← typesOf arity arguments
    match function.result? tys with
    | some result => .ok result
    | none => .error (.typeMismatch (.arguments function tys))

def typesOf (arity : Arity) : List Expr → Except Error (List Ty)
  | [] => .ok []
  | e :: es => do
    let ty ← typeOf arity e
    let tys ← typesOf arity es
    return ty :: tys

end

/-- A condition is an expression whose value is a truth value. -/
def checkCondition (arity : Arity) (e : Expr) : Except Error Unit := do
  let ty ← typeOf arity e
  if ty = .bool then return () else .error (.notPredicate ty)

end Apprentice.Expr
