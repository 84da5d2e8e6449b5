import Apprentice.Expr.Eval
import Apprentice.Expr.Lexer
import Apprentice.Expr.Parser

/-!
# Predicates

A predicate is a meaning expression that has been read and checked once. From then on it is only
evaluated, and an evaluation that fails counts as false. Simple predicates also say what they ask
for, attribute by attribute, so that an object that satisfies them can be made.
-/

namespace Apprentice

structure Predicate where
  arity : Arity
  root : Expr
  /-- The source text without the blanks around it. -/
  source : String
  deriving Repr

namespace Predicate

/-- Predicates are compared by their arity and their source text alone. -/
instance : BEq Predicate where
  beq p q := p.arity == q.arity && p.source == q.source

/-- The checked tree of a source text. -/
def treeOf (arity : Arity) (source : String) : Except Expr.Error Expr := do
  let tokens ← Expr.tokenize source
  let root ← Expr.parse source.utf8ByteSize tokens
  Expr.checkCondition arity root
  return root

def compile (arity : Arity) (source : String) : Except Expr.Error Predicate := do
  let root ← treeOf arity source
  return ⟨arity, root, Text.trimmed source⟩

def truth (p : Predicate) (binding : Expr.Binding) : Bool :=
  match Expr.eval binding p.root with
  | .ok (.bool value) => value
  | _ => false

/-- Whether an object satisfies a predicate on one object. -/
def test (p : Predicate) (o : Object) : Bool :=
  p.truth (.single o)

/-- Whether two objects stand in a relation. -/
def testPair (p : Predicate) (left right : Object) : Bool :=
  p.truth (.pair left right)

end Predicate

/-! ### Requirements on single attributes -/

/-- A requirement on one attribute of an object. -/
inductive Constraint where
  | equals (field : Expr.Attribute) (value : Expr.Literal)
  | sizeAtLeast (bound : Int64)
  | sizeAtMost (bound : Int64)
  deriving DecidableEq, Repr

namespace Constraint

/-- The next word up, or the greatest word itself. -/
def above (n : Int64) : Int64 :=
  if n = Int64.maxValue then n else n + 1

/-- The next word down, or the least word itself. -/
def below (n : Int64) : Int64 :=
  if n = Int64.minValue then n else n - 1

/-- The comparison with its operands exchanged. -/
def flip? : Expr.BinaryOp → Option Expr.BinaryOp
  | .eq => some .eq
  | .lt => some .gt
  | .le => some .ge
  | .gt => some .lt
  | .ge => some .le
  | _ => none

/-- What the comparison of an attribute with a literal requires. -/
def ofComparison? (field : Expr.Attribute) (op : Expr.BinaryOp) (value : Expr.Literal) :
    Option Constraint :=
  match op, field, value with
  | .eq, _, _ => some (equals field value)
  | .gt, .size, .int n => some (sizeAtLeast (above n))
  | .ge, .size, .int n => some (sizeAtLeast n)
  | .lt, .size, .int n => some (sizeAtMost (below n))
  | .le, .size, .int n => some (sizeAtMost n)
  | _, _, _ => none

/-- The constraints of a conjunction of simple comparisons. A membership in a list of literals asks
for the first of them. -/
def ofExpr? : Expr → Option (List Constraint)
  | .literal (.bool true) => some []
  | .binary .and left right => do
    let leftConstraints ← ofExpr? left
    let rightConstraints ← ofExpr? right
    return leftConstraints ++ rightConstraints
  | .binary op (.attr _ field) (.literal value) =>
    (ofComparison? field op value).map ([·])
  | .binary op (.literal value) (.attr _ field) => do
    let flipped ← flip? op
    (ofComparison? field flipped value).map ([·])
  | .binary .isIn (.attr _ field) (.list (.literal value :: _)) =>
    some [equals field value]
  | _ => none

end Constraint

/-- The constraints of a predicate on one object, if it is simple enough to be solved. -/
def Predicate.constraints? (p : Predicate) : Option (List Constraint) :=
  if p.arity = .unary then Constraint.ofExpr? p.root else none

end Apprentice
