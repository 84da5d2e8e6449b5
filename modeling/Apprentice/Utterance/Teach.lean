import Apprentice.Text.Alphanumeric
import Apprentice.Utterance.Error

/-!
# The teach instruction

`teach <word type> "<word>" as "<expression>"`, and `reteach` with the same form to replace a
meaning. The quotes around the word may be left out. The expression goes on to the last quote of
the text, so it may hold quotes itself, but it stays on one line.
-/

namespace Apprentice.Utterance

/-- A teach instruction that has not been carried out. -/
structure TeachRequest where
  wordType : WordType
  word : String
  expression : String
  /-- Whether an existing meaning is to be replaced. -/
  replace : Bool
  deriving DecidableEq, Repr

/-- Whether two characters differ at most in case. Besides the two cases of a letter these are the
long s and the Kelvin sign, which fold to `s` and `k`. -/
def sameLetter (c letter : Char) : Bool :=
  c.toLower == letter || (c == '\u017f' && letter == 's') || (c == '\u212a' && letter == 'k')

/-- What follows a lower-case word at the start of a text, in any letter case. -/
def afterWord? : List Char → List Char → Option (List Char)
  | [], cs => some cs
  | letter :: word, c :: cs => if sameLetter c letter then afterWord? word cs else none
  | _ :: _, [] => none

/-- What follows one or more blanks. -/
def afterBlanks? : List Char → Option (List Char)
  | c :: cs => if Text.isBlank c then some (Text.trimStart cs) else none
  | [] => none

/-- What follows `teach` or `reteach`, and whether it was `reteach`. -/
def afterTeach? (text : List Char) : Option (Bool × List Char) :=
  let text := Text.trimStart text
  match afterWord? "reteach".toList text with
  | some rest => some (true, rest)
  | none => (afterWord? "teach".toList text).map (false, ·)

/-- Whether the text starts as a teach instruction does, with a word of its own. -/
def startsTeach (text : List Char) : Bool :=
  match afterTeach? text with
  | some (_, c :: _) => !Text.isWordConstituent c
  | some (_, []) => true
  | none => false

/-- The characters that a type may be written with. -/
def isTypeChar (c : Char) : Bool :=
  c.isAlpha || c == '_' || c == '\u017f' || c == '\u212a'

/-- The characters that a taught word may be written with. -/
def isTaughtChar (c : Char) : Bool :=
  c != '"' && !Text.isBlank c

def skipQuote : List Char → List Char
  | '"' :: cs => cs
  | cs => cs

/-- The text up to the last quote, after which only blanks may follow. -/
def quotedToEnd? (text : List Char) : Option (List Char) :=
  match (Text.trimEnd text).reverse with
  | '"' :: reversed => if reversed.contains '\n' then none else some reversed.reverse
  | _ => none

/-- The parts of a teach instruction as they are written. -/
structure TeachParts where
  replace : Bool
  wordType : List Char
  word : List Char
  expression : List Char
  deriving DecidableEq, Repr

def teachParts? (text : List Char) : Option TeachParts := do
  let (replace, rest) ← afterTeach? text
  let rest ← afterBlanks? rest
  let wordType := rest.takeWhile isTypeChar
  guard (!wordType.isEmpty)
  let rest := skipQuote (← afterBlanks? (rest.dropWhile isTypeChar))
  let word := rest.takeWhile isTaughtChar
  guard (!word.isEmpty)
  let rest ← afterBlanks? (skipQuote (rest.dropWhile isTaughtChar))
  let rest ← afterBlanks? (← afterWord? "as".toList rest)
  match rest with
  | '"' :: rest =>
    let expression ← quotedToEnd? rest
    return ⟨replace, wordType, word, expression⟩
  | _ => none

/-- Nothing, if the text is no teach instruction; an error, if it only starts like one. -/
def parseTeach (text : String) : Option (Except UtteranceError TeachRequest) :=
  if !startsTeach text.toList then none
  else
    some <|
      match teachParts? text.toList with
      | none => .error (.malformedTeach (Text.trimmed text))
      | some parts =>
        match WordType.parse (String.ofList parts.wordType) with
        | .error cause => .error (.teach cause)
        | .ok wordType =>
          .ok ⟨wordType, String.ofList parts.word,
            Text.trimmed (String.ofList parts.expression), parts.replace⟩

end Apprentice.Utterance
