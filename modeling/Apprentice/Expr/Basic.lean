/-!
# Meaning expressions

The syntax trees of the small language in which meanings are written: conditions on the attributes
of one object (`obj.color == 'red'`) or of two (`obj1.size > obj2.size`).
-/

namespace Apprentice

/-- How many objects a condition talks about. -/
inductive Arity where
  | unary
  | binary
  deriving DecidableEq, Repr

def Arity.describe : Arity → String
  | unary => "single-object"
  | binary => "two-object"

namespace Expr

/-- The variables that stand for objects. -/
inductive Variable where
  | obj
  | obj1
  | obj2
  deriving DecidableEq, Repr

def Variable.name : Variable → String
  | obj => "obj"
  | obj1 => "obj1"
  | obj2 => "obj2"

def Variable.ofName? : String → Option Variable
  | "obj" => some obj
  | "obj1" => some obj1
  | "obj2" => some obj2
  | _ => none

/-- The attributes that a condition can ask about. -/
inductive Attribute where
  | name
  | shape
  | color
  | size
  | material
  | position
  | owner
  deriving DecidableEq, Repr

def Attribute.label : Attribute → String
  | name => "name"
  | shape => "shape"
  | color => "color"
  | size => "size"
  | material => "material"
  | position => "position"
  | owner => "owner"

def Attribute.ofLabel? : String → Option Attribute
  | "name" => some name
  | "shape" => some shape
  | "color" => some color
  | "size" => some size
  | "material" => some material
  | "position" => some position
  | "owner" => some owner
  | _ => none

inductive Literal where
  | bool (value : Bool)
  | int (value : Int64)
  | str (value : String)
  | null
  deriving DecidableEq, Repr

inductive BinaryOp where
  | eq
  | ne
  | lt
  | le
  | gt
  | ge
  | add
  | sub
  | mul
  | div
  | rem
  | and
  | or
  | isIn
  deriving DecidableEq, Repr

def BinaryOp.symbol : BinaryOp → String
  | eq => "=="
  | ne => "!="
  | lt => "<"
  | le => "<="
  | gt => ">"
  | ge => ">="
  | add => "+"
  | sub => "-"
  | mul => "*"
  | div => "/"
  | rem => "%"
  | and => "and"
  | or => "or"
  | isIn => "in"

inductive UnaryOp where
  | not
  | neg
  deriving DecidableEq, Repr

inductive Function where
  | abs
  | min
  | max
  | len
  deriving DecidableEq, Repr

def Function.name : Function → String
  | abs => "abs"
  | min => "min"
  | max => "max"
  | len => "len"

def Function.ofName? : String → Option Function
  | "abs" => some abs
  | "min" => some min
  | "max" => some max
  | "len" => some len
  | _ => none

end Expr

/-- A meaning expression. -/
inductive Expr where
  | literal (value : Expr.Literal)
  | attr (subject : Expr.Variable) (attr : Expr.Attribute)
  | index (target position : Expr)
  | list (items : List Expr)
  | unary (op : Expr.UnaryOp) (operand : Expr)
  | binary (op : Expr.BinaryOp) (left right : Expr)
  | call (function : Expr.Function) (arguments : List Expr)
  deriving Repr

end Apprentice
