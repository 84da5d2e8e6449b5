import Apprentice.Toml.Basic

/-!
# Writing TOML

Strings are written in the plainest way that needs no escapes: in double quotes, in single quotes,
or over several lines. Arrays with more than one item take a line for each. Tables come after the
other members, each under a header of its own.
-/

namespace Apprentice.Toml

/-! ### Strings -/

/-- Control characters that only an escape can write. -/
def needsCode (c : Char) : Bool :=
  (c.toNat < 0x20 && c != '\t' && c != '\n') || c.toNat == 0x7f

/-- The length of the longest run of a character. -/
def longestRun (quote : Char) (cs : List Char) : Nat :=
  (cs.foldl (fun (best, run) c =>
    if c == quote then (max best (run + 1), run + 1) else (best, 0)) (0, 0)).1

def hexDigit (n : Nat) : Char :=
  if n < 10 then Char.ofNat (48 + n) else Char.ofNat (55 + n)

/-- A control character as a code of four digits. -/
def codeOf (c : Char) : List Char :=
  ['\\', 'u', '0', '0', hexDigit (c.toNat / 16), hexDigit (c.toNat % 16)]

/-- The text within double quotes. A quote is escaped when more than `quotes` stand in a row; `run`
of them stand right before the text. -/
def escapedFrom (quotes : Nat) (lines : Bool) (run : Nat) : List Char → List Char
  | [] => []
  | '"' :: cs =>
    if quotes ≤ run then '\\' :: '"' :: escapedFrom quotes lines 0 cs
    else '"' :: escapedFrom quotes lines (run + 1) cs
  | c :: cs =>
    let written :=
      match c with
      | '\\' => ['\\', '\\']
      | '\x08' => ['\\', 'b']
      | '\t' => ['\\', 't']
      | '\n' => if lines then ['\n'] else ['\\', 'n']
      | '\x0c' => ['\\', 'f']
      | '\r' => ['\\', 'r']
      | _ => if needsCode c then codeOf c else [c]
    written ++ escapedFrom quotes lines 0 cs

def basicText (cs : List Char) : String :=
  "\"" ++ String.ofList (escapedFrom 0 false 0 cs) ++ "\""

def literalText (cs : List Char) : String :=
  "'" ++ String.ofList cs ++ "'"

/-- A line break after the opening quotes is not part of the text. -/
def opening (cs : List Char) : String :=
  if cs.contains '\n' then "\n" else ""

def longBasicText (cs : List Char) : String :=
  "\"\"\"" ++ opening cs ++ String.ofList (escapedFrom 2 true 0 cs) ++ "\"\"\""

def longLiteralText (cs : List Char) : String :=
  "'''" ++ opening cs ++ String.ofList cs ++ "'''"

/-- A string, in the first of the four ways that needs no escapes. -/
def stringText (text : String) : String :=
  let cs := text.toList
  let coded := cs.any needsCode
  let lines := cs.contains '\n'
  let backslashes := cs.contains '\\'
  if !coded && !backslashes && longestRun '"' cs == 0 && !lines then basicText cs
  else if !coded && longestRun '\'' cs == 0 && !lines then literalText cs
  else if !coded && !backslashes && longestRun '"' cs ≤ 2 then longBasicText cs
  else if !coded && longestRun '\'' cs ≤ 2 then longLiteralText cs
  else if lines then longBasicText cs
  else basicText cs

/-- A part of a key. Only letters, digits, underscores and hyphens need no quotes. -/
def keyText (key : String) : String :=
  let cs := key.toList
  let coded := cs.any fun c => needsCode c || c == '\n'
  if !cs.isEmpty && cs.all fun c => c.isAlphanum || c == '_' || c == '-' then key
  else if !coded && !cs.contains '\\' && !cs.contains '"' then basicText cs
  else if !coded && !cs.contains '\'' then literalText cs
  else basicText cs

/-! ### Documents -/

mutual

/-- A value behind its key. A table there is written in braces. -/
def valueText : Value → String
  | .string text => stringText text
  | .integer n => toString n
  | .float => "0.0"
  | .boolean b => if b then "true" else "false"
  | .dateTime => "1970-01-01"
  | .array [] => "[]"
  | .array [item] => "[" ++ valueText item ++ "]"
  | .array (item :: items) => "[\n" ++ itemLines (item :: items) ++ "]"
  | .table [] => "\x7b\x7d"
  | .table ((key, v) :: members) =>
    "\x7b " ++ keyText key ++ " = " ++ valueText v ++ memberTexts members ++ " \x7d"

/-- The items of an array, each on a line of its own. -/
def itemLines : List Value → String
  | [] => ""
  | item :: items => "    " ++ valueText item ++ ",\n" ++ itemLines items

/-- The members of a table in braces after the first one. -/
def memberTexts : List (String × Value) → String
  | [] => ""
  | (key, v) :: members => ", " ++ keyText key ++ " = " ++ valueText v ++ memberTexts members

end

def isTable : Value → Bool
  | .table _ => true
  | _ => false

/-- The lines for the members of a table that are no tables. -/
def plainLines (members : Table) : String :=
  String.join ((members.filter fun member => !isTable member.2).map fun member =>
    keyText member.1 ++ " = " ++ valueText member.2 ++ "\n")

def headerText (path : List String) : String :=
  "\n[" ++ String.intercalate "." (path.map keyText) ++ "]\n"

mutual

/-- The tables among the members of the table at a path. -/
def tableLines (path : List String) : List (String × Value) → String
  | [] => ""
  | (key, v) :: members => tableText (path ++ [key]) v ++ tableLines path members

/-- A table under its header. A table of nothing but tables needs no header. -/
def tableText (path : List String) : Value → String
  | .table members =>
    let plain := plainLines members
    let header := if members.isEmpty || !plain.isEmpty then headerText path else ""
    header ++ plain ++ tableLines path members
  | _ => ""

end

/-- The document of a table with members that are no tables. -/
def documentText (members : Table) : String :=
  plainLines members ++ tableLines [] members

end Apprentice.Toml
