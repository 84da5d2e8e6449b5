/-!
# Lines

A line ends with a line feed, before which a carriage return belongs to the line end too. What
follows the last line feed is a line only if it is not empty.
-/

namespace Apprentice.Text

/-- A line without the carriage return of its end. -/
def withoutReturn (line : List Char) : List Char :=
  if line.getLast? == some '\r' then line.dropLast else line

/-- The lines of a text whose current line starts with `begun`, last character first. -/
def linesFrom (begun : List Char) : List Char → List (List Char)
  | [] => if begun.isEmpty then [] else [begun.reverse]
  | '\n' :: cs => withoutReturn begun.reverse :: linesFrom [] cs
  | c :: cs => linesFrom (c :: begun) cs

def lines (text : String) : List (List Char) :=
  linesFrom [] text.toList

end Apprentice.Text
