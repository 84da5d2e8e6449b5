import Apprentice.Json.Basic

/-!
# Writing JSON

Values are written over several lines, with two blanks for each level. Only quotes, backslashes and
control characters are escaped.
-/

namespace Apprentice.Json

def hexDigit (n : Nat) : Char :=
  if n < 10 then Char.ofNat (48 + n) else Char.ofNat (87 + n)

/-- A character as it stands inside quotes. -/
def escapeChar (c : Char) : List Char :=
  match c with
  | '"' => ['\\', '"']
  | '\\' => ['\\', '\\']
  | '\n' => ['\\', 'n']
  | '\r' => ['\\', 'r']
  | '\t' => ['\\', 't']
  | '\x08' => ['\\', 'b']
  | '\x0c' => ['\\', 'f']
  | _ =>
    if c.toNat < 0x20 then
      ['\\', 'u', '0', '0', hexDigit (c.toNat / 16), hexDigit (c.toNat % 16)]
    else [c]

/-- A text between quotes. -/
def quote (text : String) : String :=
  "\"" ++ String.ofList (text.toList.flatMap escapeChar) ++ "\""

def lineBreak (level : Nat) : String :=
  "\n" ++ String.ofList (List.replicate (2 * level) ' ')

mutual

/-- The text of a value that stands at a level of nesting. -/
def prettyAt (level : Nat) : Json → String
  | null => "null"
  | bool value => if value then "true" else "false"
  | number digits => digits
  | string text => quote (text.getD "")
  | array [] => "[]"
  | array (item :: items) =>
    "[" ++ lineBreak (level + 1) ++ prettyAt (level + 1) item ++ prettyItems level items
      ++ lineBreak level ++ "]"
  | object [] => "\x7b\x7d"
  | object ((key, value) :: members) =>
    "\x7b" ++ lineBreak (level + 1) ++ quote (key.getD "") ++ ": " ++ prettyAt (level + 1) value
      ++ prettyMembers level members ++ lineBreak level ++ "\x7d"

/-- The items after the first one. -/
def prettyItems (level : Nat) : List Json → String
  | [] => ""
  | item :: items =>
    "," ++ lineBreak (level + 1) ++ prettyAt (level + 1) item ++ prettyItems level items

/-- The members after the first one. -/
def prettyMembers (level : Nat) : List (Option String × Json) → String
  | [] => ""
  | (key, value) :: members =>
    "," ++ lineBreak (level + 1) ++ quote (key.getD "") ++ ": " ++ prettyAt (level + 1) value
      ++ prettyMembers level members

end

def pretty (value : Json) : String :=
  prettyAt 0 value

end Apprentice.Json
