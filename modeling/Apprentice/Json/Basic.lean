/-!
# JSON values

Numbers keep their text, as nothing here computes with them. An escape can name half of a surrogate
pair, which stands for no character: a string with such an escape is well-formed but has no text.
-/

namespace Apprentice

inductive Json where
  | null
  | bool (value : Bool)
  | number (digits : String)
  | string (text : Option String)
  | array (items : List Json)
  | object (members : List (Option String × Json))
  deriving Repr

end Apprentice
