/-!
# Substrings
-/

namespace Apprentice.Text

/-- Whether `needle` occurs in a text as a run of neighbouring characters. -/
def occursIn (needle : List Char) : List Char → Bool
  | [] => needle.isEmpty
  | c :: cs => needle.isPrefixOf (c :: cs) || occursIn needle cs

end Apprentice.Text
