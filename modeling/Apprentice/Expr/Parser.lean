import Apprentice.Expr.Error
import Apprentice.Parsed

/-!
# From tokens to trees

The operators bind, loosest first: `or`, `and`, `not`, the comparisons and `in`, `+ -`, `* / %`,
the sign `-`, and `[ ]`. Chains of one level associate to the left; comparisons do not chain.

Every nested expression and every link of a chain goes one level deeper, and no expression goes
deeper than `maxDepth`. The room that is left for levels is handed down as an argument, so it is
the same again after each construct. Each parser leaves fewer tokens than it was given, and says so
in its type.
-/

namespace Apprentice.Expr

def maxDepth : Nat := 64

/-- Chains of binary operators, by how tightly they bind. -/
inductive Chain where
  | disjunction
  | conjunction
  | sum
  | product
  deriving DecidableEq, Repr

/-- The operator that a lexeme stands for between two operands of a chain. -/
def Chain.operator? : Chain → Lexeme → Option BinaryOp
  | disjunction, .ident "or" => some .or
  | disjunction, .orOr => some .or
  | conjunction, .ident "and" => some .and
  | conjunction, .andAnd => some .and
  | sum, .plus => some .add
  | sum, .minus => some .sub
  | product, .star => some .mul
  | product, .slash => some .div
  | product, .percent => some .rem
  | _, _ => none

/-- Looser chains are measured higher. -/
@[simp]
def Chain.rank : Chain → Nat
  | disjunction => 12
  | conjunction => 10
  | sum => 6
  | product => 4

def comparison? : Lexeme → Option BinaryOp
  | .eqEq => some .eq
  | .notEq => some .ne
  | .lt => some .lt
  | .le => some .le
  | .gt => some .gt
  | .ge => some .ge
  | .ident "in" => some .isIn
  | _ => none

def isNegation : Lexeme → Bool
  | .ident "not" => true
  | .bang => true
  | _ => false

/-- The literals that are written as names. -/
def namedLiteral? : String → Option Literal
  | "True" | "true" => some (.bool true)
  | "False" | "false" => some (.bool false)
  | "None" | "none" | "null" => some .null
  | _ => none

/-- A negated integer literal is a literal again. -/
def negate : Expr → Expr
  | .literal (.int n) => .literal (.int (-n))
  | operand => .unary .neg operand

section

-- Where the source ends, in bytes.
variable (endOffset : Nat)

/-- The offset of the next token. -/
def nextOffset : List Token → Nat
  | [] => endOffset
  | token :: _ => token.offset

def unexpected (expected : Expectation) (tokens : List Token) : Error :=
  .unexpectedToken (tokens.head?.map Token.lexeme) expected (nextOffset endOffset tokens)

/-- Goes one level deeper, if there is room for it. -/
def deeper (room : Nat) (tokens : List Token) : Except Error Nat :=
  match room with
  | 0 => .error (.tooDeep (nextOffset endOffset tokens))
  | left + 1 => .ok left

/-- Passes over a token that has to be there. -/
def expect (lexeme : Lexeme) (expected : Expectation) (tokens : List Token) :
    Except Error (Parsed Token Unit tokens.length) :=
  match tokens with
  | token :: rest =>
    if token.lexeme = lexeme then .ok ⟨(), rest, by simp⟩
    else .error (unexpected endOffset expected (token :: rest))
  | [] => .error (unexpected endOffset expected [])

/-- The attribute after a variable. -/
def attributeAccess (subject : Variable) (tokens : List Token) :
    Except Error (Parsed Token Expr tokens.length) := do
  let dot ← expect endOffset .dot .access tokens
  match h : dot.rest with
  | ⟨.ident name, offset⟩ :: rest =>
    match Attribute.ofLabel? name with
    | some a => return ⟨.attr subject a, rest, dot.length_tail_lt h⟩
    | none => .error (.unknownAttribute name offset)
  | other => .error (unexpected endOffset .attributeName other)

mutual

/-- An expression one level deeper than its surroundings. -/
def expression (room : Nat) (tokens : List Token) :
    Except Error (Parsed Token Expr tokens.length) := do
  let inner ← deeper endOffset room tokens
  chain .disjunction inner tokens
termination_by (tokens.length, 14)

/-- Operands of one level, joined by its operators. -/
def chain (level : Chain) (room : Nat) (tokens : List Token) :
    Except Error (Parsed Token Expr tokens.length) := do
  let first ← operand level room tokens
  have := first.shorter
  let whole ← links level room first.value first.rest
  return ⟨whole.value, whole.rest, Nat.lt_of_lt_of_le whole.shorter first.shorter⟩
termination_by (tokens.length, level.rank + 1)

/-- The links of a chain after its first operands, which `left` holds. -/
def links (level : Chain) (room : Nat) (left : Expr) (tokens : List Token) :
    Except Error (Parsed Token Expr (tokens.length + 1)) :=
  match tokens with
  | [] => .ok ⟨left, [], by simp⟩
  | token :: rest =>
    match level.operator? token.lexeme with
    | none => .ok ⟨left, token :: rest, by simp⟩
    | some op => do
      let inner ← deeper endOffset room rest
      let right ← operand level inner rest
      have := right.shorter
      let whole ← links level inner (.binary op left right.value) right.rest
      have := Nat.lt_of_lt_of_le whole.shorter right.shorter
      return ⟨whole.value, whole.rest, Nat.lt_succ_of_lt (Nat.lt_succ_of_lt this)⟩
termination_by (tokens.length, 0)

/-- An operand of a chain: the next tighter construct. -/
def operand (level : Chain) (room : Nat) (tokens : List Token) :
    Except Error (Parsed Token Expr tokens.length) :=
  match level with
  | .disjunction => chain .conjunction room tokens
  | .conjunction => negation room tokens
  | .sum => chain .product room tokens
  | .product => signed room tokens
termination_by (tokens.length, level.rank)

def negation (room : Nat) (tokens : List Token) : Except Error (Parsed Token Expr tokens.length) :=
  match tokens with
  | token :: rest =>
    if isNegation token.lexeme then do
      let inner ← deeper endOffset room rest
      let operand ← negation inner rest
      return ⟨.unary .not operand.value, operand.rest, Nat.lt_succ_of_lt operand.shorter⟩
    else
      comparison room (token :: rest)
  | [] => comparison room []
termination_by (tokens.length, 9)

def comparison (room : Nat) (tokens : List Token) :
    Except Error (Parsed Token Expr tokens.length) := do
  let left ← chain .sum room tokens
  match h : left.rest with
  | [] => return left
  | token :: rest =>
    match comparison? token.lexeme with
    | none => return left
    | some op =>
      have hrest := left.length_tail_lt h
      let right ← chain .sum room rest
      if (right.rest.head?.bind fun next => comparison? next.lexeme).isSome then
        .error (.chainedComparison (nextOffset endOffset right.rest))
      else
        return ⟨.binary op left.value right.value, right.rest,
          Nat.lt_trans right.shorter hrest⟩
termination_by (tokens.length, 8)

def signed (room : Nat) (tokens : List Token) : Except Error (Parsed Token Expr tokens.length) :=
  match tokens with
  | token :: rest =>
    if token.lexeme = .minus then do
      let inner ← deeper endOffset room rest
      let operand ← signed inner rest
      return ⟨negate operand.value, operand.rest, Nat.lt_succ_of_lt operand.shorter⟩
    else
      subscripted room (token :: rest)
  | [] => subscripted room []
termination_by (tokens.length, 2)

/-- A primary expression and its subscripts. -/
def subscripted (room : Nat) (tokens : List Token) :
    Except Error (Parsed Token Expr tokens.length) := do
  let target ← primary room tokens
  have := target.shorter
  let whole ← subscripts room target.value target.rest
  return ⟨whole.value, whole.rest, Nat.lt_of_lt_of_le whole.shorter target.shorter⟩
termination_by (tokens.length, 1)

def subscripts (room : Nat) (target : Expr) (tokens : List Token) :
    Except Error (Parsed Token Expr (tokens.length + 1)) :=
  match tokens with
  | [] => .ok ⟨target, [], by simp⟩
  | token :: rest =>
    if token.lexeme = .openBracket then do
      let inner ← deeper endOffset room rest
      let index ← expression inner rest
      have := index.shorter
      let close ← expect endOffset .closeBracket .closeBracket index.rest
      have := Nat.lt_trans close.shorter index.shorter
      let whole ← subscripts inner (.index target index.value) close.rest
      have := Nat.lt_trans (Nat.lt_of_lt_of_le whole.shorter close.shorter) index.shorter
      return ⟨whole.value, whole.rest, Nat.lt_succ_of_lt (Nat.lt_succ_of_lt this)⟩
    else
      .ok ⟨target, token :: rest, by simp⟩
termination_by (tokens.length, 0)

def primary (room : Nat) (tokens : List Token) : Except Error (Parsed Token Expr tokens.length) :=
  match tokens with
  | ⟨.int value, _⟩ :: rest => .ok ⟨.literal (.int value), rest, by simp⟩
  | ⟨.str text, _⟩ :: rest => .ok ⟨.literal (.str text), rest, by simp⟩
  | ⟨.openParen, _⟩ :: rest => do
    let inner ← expression room rest
    let close ← expect endOffset .closeParen .closeParen inner.rest
    return ⟨inner.value, close.rest,
      Nat.lt_succ_of_lt (Nat.lt_trans close.shorter inner.shorter)⟩
  | ⟨.openBracket, _⟩ :: rest => do
    let items ← enclosed room .closeBracket .itemEnd rest
    return ⟨.list items.value, items.rest, Nat.lt_succ_of_lt items.shorter⟩
  | ⟨.ident name, offset⟩ :: rest =>
    match namedLiteral? name, Variable.ofName? name with
    | some value, _ => .ok ⟨.literal value, rest, by simp⟩
    | none, some subject => do
      let access ← attributeAccess endOffset subject rest
      return ⟨access.value, access.rest, Nat.lt_succ_of_lt access.shorter⟩
    | none, none =>
      match rest with
      | ⟨.openParen, _⟩ :: inside =>
        match Function.ofName? name with
        | none => .error (.unknownFunction name offset)
        | some function => do
          let arguments ← enclosed room .closeParen .argumentEnd inside
          return ⟨.call function arguments.value, arguments.rest,
            Nat.lt_succ_of_lt (Nat.lt_succ_of_lt arguments.shorter)⟩
      | _ => .error (.unknownName name offset)
  | other => .error (unexpected endOffset .value other)
termination_by (tokens.length, 0)

/-- What stands between two brackets, after the opening one: nothing, or items. -/
def enclosed (room : Nat) (close : Lexeme) (expected : Expectation) (tokens : List Token) :
    Except Error (Parsed Token (List Expr) tokens.length) :=
  match tokens with
  | token :: rest =>
    if token.lexeme = close then .ok ⟨[], rest, by simp⟩
    else items room close expected (token :: rest)
  | [] => items room close expected []
termination_by (tokens.length, 16)

/-- One or more items, separated by commas, up to the closing lexeme. -/
def items (room : Nat) (close : Lexeme) (expected : Expectation) (tokens : List Token) :
    Except Error (Parsed Token (List Expr) tokens.length) := do
  let first ← expression room tokens
  match h : first.rest with
  | [] => .error (unexpected endOffset expected [])
  | token :: rest =>
    have hrest := first.length_tail_lt h
    if token.lexeme = close then
      return ⟨[first.value], rest, hrest⟩
    else if token.lexeme = .comma then do
      let others ← items room close expected rest
      return ⟨first.value :: others.value, others.rest,
        Nat.lt_trans others.shorter hrest⟩
    else
      .error (unexpected endOffset expected (token :: rest))
termination_by (tokens.length, 15)

end

/-- The tree of a complete expression: no token may remain. -/
def parse (tokens : List Token) : Except Error Expr :=
  if tokens.isEmpty then .error .empty
  else do
    let whole ← expression endOffset maxDepth tokens
    if whole.rest.isEmpty then return whole.value
    else .error (unexpected endOffset .endOfExpression whole.rest)

end

end Apprentice.Expr
