import Apprentice.Text.Visible

/-!
# Quoted text

A text between double quotes on one line, in which every character can be told: quotes, backslashes
and characters that do not show are escaped.
-/

namespace Apprentice.Text

/-- A code point in lower-case hexadecimal digits, as few as possible. -/
def codeEscape (c : Char) : List Char :=
  "\\u\x7b".toList ++ Nat.toDigits 16 c.toNat ++ ['\x7d']

def quotedChar (c : Char) : List Char :=
  match c with
  | '\x00' => ['\\', '0']
  | '\t' => ['\\', 't']
  | '\n' => ['\\', 'n']
  | '\r' => ['\\', 'r']
  | '"' => ['\\', '"']
  | '\\' => ['\\', '\\']
  | _ => if isVisible c then [c] else codeEscape c

/-- A text between quotes. -/
def quoted (text : String) : String :=
  "\"" ++ String.ofList (text.toList.flatMap quotedChar) ++ "\""

end Apprentice.Text
