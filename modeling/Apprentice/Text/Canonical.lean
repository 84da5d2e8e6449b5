import Apprentice.Text.CombiningClass
import Apprentice.Text.Composition

/-!
# The canonical composed form

Two spellings of one text, such as a letter with a separate accent and the accented letter, have
the same canonical form. It is reached in three steps: decompose every character, sort each run of
marks by combining class, and compose again from left to right.
-/

namespace Apprentice.Text

/-- Puts a mark before the first character of a sorted text that it may not pass. -/
def insertMark (mark : Char) : List Char → List Char
  | [] => [mark]
  | c :: cs =>
    if 0 < combiningClass c && combiningClass c < combiningClass mark then
      c :: insertMark mark cs
    else
      mark :: c :: cs

/-- Sorts each run of marks by combining class; marks of one class keep their order. -/
def orderMarks : List Char → List Char
  | [] => []
  | c :: cs => if combiningClass c == 0 then c :: orderMarks cs else insertMark c (orderMarks cs)

/-- Composes onto `starter`, past the marks `skipped` that did not compose with it (latest first).
A mark is blocked when the last skipped one has its class or a higher one. -/
def composeOnto (starter : Char) (skipped : List Char) : List Char → List Char
  | [] => starter :: skipped.reverse
  | c :: cs =>
    let blocked := skipped.head?.any fun last => combiningClass c ≤ combiningClass last
    match if blocked then none else composePair starter c with
    | some composite => composeOnto composite skipped cs
    | none =>
      if combiningClass c == 0 then starter :: skipped.reverse ++ composeOnto c [] cs
      else composeOnto starter (c :: skipped) cs

/-- Composes a decomposed and ordered text. -/
def compose : List Char → List Char
  | [] => []
  | c :: cs => if combiningClass c == 0 then composeOnto c [] cs else c :: compose cs

/-- The canonical composed form of a text. -/
def canonical (cs : List Char) : List Char :=
  if cs.all (·.toNat < 0xC0) then cs
  else compose (orderMarks (cs.flatMap decomposeChar))

end Apprentice.Text
