import Apprentice.Lexicon.Word
import Apprentice.Lexicon.WordType

/-!
# The words of an utterance

An utterance is cut at blanks, and punctuation at both ends of a piece is dropped. Every word keeps
the place where it stood, so that it can be found again in the text.
-/

namespace Apprentice.Utterance

/-- A stretch of a text, in bytes. -/
structure Span where
  start : Nat
  stop : Nat
  deriving DecidableEq, Repr

/-- A word as it was typed, and where. -/
structure SpannedWord where
  surface : String
  span : Span
  deriving DecidableEq, Repr

def isInnerChar (c : Char) : Bool :=
  !Text.isBlank c

/-- The pieces between blanks, with their offsets, of a text that starts at the given offset. -/
def piecesFrom (offset : Nat) : List Char → List (Nat × List Char)
  | [] => []
  | c :: cs =>
    if Text.isBlank c then piecesFrom (offset + c.utf8Size) cs
    else
      let piece := c :: cs.takeWhile isInnerChar
      have : (cs.dropWhile isInnerChar).length ≤ cs.length :=
        (List.dropWhile_sublist isInnerChar).length_le
      (offset, piece) :: piecesFrom (offset + Text.byteLength piece) (cs.dropWhile isInnerChar)
termination_by cs => cs.length

/-- The word inside a piece: what is left when punctuation is dropped at both ends. -/
def wordOfPiece? (offset : Nat) (piece : List Char) : Option SpannedWord :=
  let start := offset + Text.byteLength (piece.takeWhile fun c => !isWordChar c)
  let core := piece.dropWhile fun c => !isWordChar c
  let word := (core.reverse.dropWhile fun c => !isWordChar c).reverse
  if word.isEmpty then none
  else some ⟨String.ofList word, ⟨start, start + Text.byteLength word⟩⟩

def splitWords (text : String) : List SpannedWord :=
  (piecesFrom 0 text.toList).filterMap fun (offset, piece) => wordOfPiece? offset piece

/-- Whether a word in normal form is `words` or names a word type, in either number. -/
def namesWordTypes (word : String) : Bool :=
  word == "words" || (WordType.ofName? word).isSome

end Apprentice.Utterance
