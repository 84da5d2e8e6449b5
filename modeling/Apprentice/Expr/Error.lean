import Apprentice.Diagnostic
import Apprentice.Expr.Token

/-!
# Why a meaning expression is refused

The causes, from the first character that starts no token to the expression that is no condition,
and their diagnostics. Offsets count bytes.
-/

namespace Apprentice.Expr

/-- The types of expressions. -/
inductive Ty where
  | bool
  | int
  | str
  | pos
  | list
  | null
  deriving DecidableEq, Repr

def Ty.label : Ty → String
  | bool => "bool"
  | int => "int"
  | str => "string"
  | pos => "position"
  | list => "list"
  | null => "None"

/-- What the grammar asks for at a place where something else stands. -/
inductive Expectation where
  | value
  | endOfExpression
  | closeParen
  | closeBracket
  | itemEnd
  | argumentEnd
  | access
  | attributeName
  deriving DecidableEq, Repr

def Expectation.describe : Expectation → String
  | value => "a value"
  | endOfExpression => "end of expression"
  | closeParen => "`)`"
  | closeBracket => "`]`"
  | itemEnd => "`,` or `]`"
  | argumentEnd => "`,` or `)`"
  | access => "`.` followed by an attribute"
  | attributeName => "an attribute name"

/-- The ways in which the types of an expression can clash. -/
inductive TypeClash where
  | operands (op : BinaryOp) (left right : Ty)
  | operand (op : UnaryOp) (found : Ty)
  | index (target position : Ty)
  | coordinate (index : Int64)
  | arguments (function : Function) (found : List Ty)
  deriving DecidableEq, Repr

def TypeClash.describe : TypeClash → String
  | operands op left right =>
    "`" ++ op.symbol ++ "` cannot combine " ++ left.label ++ " and " ++ right.label
  | operand .not found => "`not` expects bool, found " ++ found.label
  | operand .neg found => "unary `-` expects int, found " ++ found.label
  | index target position => "`[]` cannot combine " ++ target.label ++ " and " ++ position.label
  | coordinate n => "position has two coordinates, index " ++ toString n ++ " is out of range"
  | arguments function found =>
    function.name ++ "() cannot take (" ++ String.intercalate ", " (found.map Ty.label) ++ ")"

inductive Error where
  | empty
  | unexpectedChar (char : Char) (offset : Nat)
  | unterminatedString (offset : Nat)
  | numberOutOfRange (digits : String) (offset : Nat)
  /-- `found` is absent at the end of the expression. -/
  | unexpectedToken (found : Option Lexeme) (expected : Expectation) (offset : Nat)
  | tooDeep (offset : Nat)
  | chainedComparison (offset : Nat)
  | unknownAttribute (name : String) (offset : Nat)
  | unknownName (name : String) (offset : Nat)
  | unknownFunction (name : String) (offset : Nat)
  | wrongVariable (subject : Variable) (arity : Arity)
  | typeMismatch (clash : TypeClash)
  | notPredicate (found : Ty)
  deriving DecidableEq, Repr

def Error.message : Error → String
  | empty => "empty expression"
  | unexpectedChar char offset =>
    "unexpected character '" ++ char.toString ++ "' at offset " ++ toString offset
  | unterminatedString offset => "unterminated string starting at offset " ++ toString offset
  | numberOutOfRange digits offset =>
    "number " ++ digits ++ " at offset " ++ toString offset ++ " is out of range"
  | unexpectedToken found expected offset =>
    "expected " ++ expected.describe ++ ", found "
      ++ (found.map Lexeme.describe).getD "end of expression" ++ " at offset " ++ toString offset
  | tooDeep offset => "expression is nested too deeply at offset " ++ toString offset
  | chainedComparison offset =>
    "comparison operators cannot be chained (offset " ++ toString offset ++ ")"
  | unknownAttribute name offset =>
    "unknown attribute \"" ++ name ++ "\" at offset " ++ toString offset
  | unknownName name offset => "unknown name \"" ++ name ++ "\" at offset " ++ toString offset
  | unknownFunction name offset =>
    "unknown function \"" ++ name ++ "\" at offset " ++ toString offset
  | wrongVariable subject arity =>
    "variable `" ++ subject.name ++ "` cannot be used in a " ++ arity.describe ++ " expression"
  | typeMismatch clash => "type error: " ++ clash.describe
  | notPredicate found => "expression evaluates to " ++ found.label ++ ", not a truth value"

def Error.code : Error → String
  | empty => "lexagent::expr::empty"
  | unexpectedChar .. => "lexagent::expr::unexpected_char"
  | unterminatedString .. => "lexagent::expr::unterminated_string"
  | numberOutOfRange .. => "lexagent::expr::number_range"
  | unexpectedToken .. => "lexagent::expr::syntax"
  | tooDeep .. => "lexagent::expr::too_deep"
  | chainedComparison .. => "lexagent::expr::chained_comparison"
  | unknownAttribute .. => "lexagent::expr::unknown_attribute"
  | unknownName .. => "lexagent::expr::unknown_name"
  | unknownFunction .. => "lexagent::expr::unknown_function"
  | wrongVariable .. => "lexagent::expr::wrong_variable"
  | typeMismatch .. => "lexagent::expr::type_mismatch"
  | notPredicate .. => "lexagent::expr::not_predicate"

def Error.help : Error → String
  | empty => "Write a predicate such as obj.color == 'red'."
  | unexpectedChar .. =>
    "Expressions use comparisons, and/or/not, arithmetic and quoted strings only."
  | unterminatedString .. => "Close the string with the same quote character it opened with."
  | numberOutOfRange .. => "Integers must fit in 64 bits."
  | unexpectedToken .. =>
    "Check the expression syntax, e.g. obj.size > 3 and obj.shape == 'box'."
  | tooDeep .. => "Meanings may nest at most 64 levels; teach the parts as separate words."
  | chainedComparison .. => "Combine comparisons with `and`: obj.size > 1 and obj.size < 5."
  | unknownAttribute .. =>
    "Objects only have: name, shape, color, size, material, position, owner."
  | unknownName .. =>
    "Refer to objects through obj (or obj1/obj2 for relations) and an attribute, e.g. obj.color."
  | unknownFunction .. => "Available functions: abs, min, max, len."
  | wrongVariable .. => "Nouns and properties use `obj`; relations use `obj1` and `obj2`."
  | typeMismatch .. =>
    "size and position coordinates are integers; every other attribute is text."
  | notPredicate .. =>
    "A word meaning must be a condition, e.g. obj.size > 3 rather than obj.size."

def Error.diagnostic (e : Error) : Diagnostic :=
  ⟨e.code, some e.message, some e.help⟩

end Apprentice.Expr
