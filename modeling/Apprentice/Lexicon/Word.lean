import Apprentice.Text.Alphanumeric
import Apprentice.Text.Blank
import Apprentice.Text.Canonical
import Apprentice.Text.LowerCase

/-!
# Words

The form under which a word is kept, and which words can be taught at all.
-/

namespace Apprentice

/-- The characters that words are made of. -/
def isWordChar (c : Char) : Bool :=
  Text.isAlphanumeric c || c == '_' || c == '-' || c == '\''

/-- The form under which a word is kept: without blanks around it, in canonical composed form, in
lower case. -/
def normalizeWord (word : String) : String :=
  String.ofList (Text.lower (Text.canonical (Text.trim word.toList)))

def isValidWord (word : String) : Bool :=
  !word.isEmpty && word.toList.all isWordChar

/-- The words that the command grammar reads itself. They cannot be taught. -/
def structuralWords : List String :=
  ["a", "an", "the", "is", "are", "as", "to", "in", "into", "from", "do", "does", "has",
    "have", "there", "exists", "exist", "happened", "event", "events", "know", "about", "all"]

def articles : List String :=
  ["a", "an", "the"]

end Apprentice
