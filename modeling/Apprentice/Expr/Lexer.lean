import Apprentice.Expr.Error
import Apprentice.Text.Blank
import Apprentice.Text.Number

/-!
# Reading tokens

Blanks separate tokens and are skipped. Every other character starts the longest lexeme that it can
start, so reading always moves on, and the tokens keep the order of the source.
-/

namespace Apprentice.Expr

def isIdentStart (c : Char) : Bool :=
  c.isAlpha || c == '_'

def isIdentRest (c : Char) : Bool :=
  c.isAlphanum || c == '_'

/-- The operators and marks of two characters. -/
def pairLexeme? : Char → Char → Option Lexeme
  | '=', '=' => some .eqEq
  | '!', '=' => some .notEq
  | '<', '=' => some .le
  | '>', '=' => some .ge
  | '&', '&' => some .andAnd
  | '|', '|' => some .orOr
  | _, _ => none

/-- The operators and marks of one character. -/
def charLexeme? : Char → Option Lexeme
  | '<' => some .lt
  | '>' => some .gt
  | '!' => some .bang
  | '.' => some .dot
  | ',' => some .comma
  | '(' => some .openParen
  | ')' => some .closeParen
  | '[' => some .openBracket
  | ']' => some .closeBracket
  | '+' => some .plus
  | '-' => some .minus
  | '*' => some .star
  | '/' => some .slash
  | '%' => some .percent
  | _ => none

/-- The first lexeme of a text: how many characters it takes beyond the first, and the rest. -/
structure Reading (cs : List Char) where
  lexeme : Lexeme
  /-- The characters of the lexeme after its first one. -/
  body : List Char
  rest : List Char
  shorter : rest.length ≤ cs.length

theorem length_dropWhile_le (p : Char → Bool) (cs : List Char) :
    (cs.dropWhile p).length ≤ cs.length :=
  (List.dropWhile_sublist p).length_le

theorem length_le_of_dropWhile {p : Char → Bool} {cs rest : List Char} {c : Char}
    (h : cs.dropWhile p = c :: rest) : rest.length ≤ cs.length := by
  have hle := length_dropWhile_le p cs
  rw [h] at hle
  exact Nat.le_of_succ_le hle

/-- Reads the lexeme that starts with `c`, at the given offset, and goes on in `cs`. -/
def readLexeme (offset : Nat) (c : Char) (cs : List Char) : Except Error (Reading cs) :=
  if isIdentStart c then
    let body := cs.takeWhile isIdentRest
    .ok ⟨.ident (String.ofList (c :: body)), body, cs.dropWhile isIdentRest,
      length_dropWhile_le ..⟩
  else if c.isDigit then
    let body := cs.takeWhile Char.isDigit
    let value := Text.digitsValue (c :: body)
    if value ≤ Int64.maxValue.toInt.toNat then
      .ok ⟨.int (Int64.ofNat value), body, cs.dropWhile Char.isDigit, length_dropWhile_le ..⟩
    else
      .error (.numberOutOfRange (String.ofList (c :: body)) offset)
  else if c == '\'' || c == '"' then
    let text := cs.takeWhile (· != c)
    match h : cs.dropWhile (· != c) with
    | [] => .error (.unterminatedString offset)
    | quote :: rest =>
      .ok ⟨.str (String.ofList text), text ++ [quote], rest, length_le_of_dropWhile h⟩
  else
    match cs with
    | [] =>
      match charLexeme? c with
      | some lexeme => .ok ⟨lexeme, [], [], Nat.le_refl _⟩
      | none => .error (.unexpectedChar c offset)
    | d :: rest =>
      match pairLexeme? c d, charLexeme? c with
      | some lexeme, _ => .ok ⟨lexeme, [d], rest, by simp⟩
      | none, some lexeme => .ok ⟨lexeme, [], d :: rest, Nat.le_refl _⟩
      | none, none => .error (.unexpectedChar c offset)

/-- The tokens of a text that starts at the given offset. -/
def tokensFrom (offset : Nat) : List Char → Except Error (List Token)
  | [] => .ok []
  | c :: cs =>
    if Text.isBlank c then tokensFrom (offset + c.utf8Size) cs
    else do
      let reading ← readLexeme offset c cs
      have := reading.shorter
      let tokens ← tokensFrom (offset + Text.byteLength (c :: reading.body)) reading.rest
      return ⟨reading.lexeme, offset⟩ :: tokens
termination_by cs => cs.length

/-- The tokens of a source text. -/
def tokenize (source : String) : Except Error (List Token) :=
  tokensFrom 0 source.toList

end Apprentice.Expr
