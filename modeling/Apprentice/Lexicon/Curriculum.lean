import Apprentice.Lexicon.Records
import Apprentice.Text.Lines

/-!
# Curricula

A curriculum is a text with one word per line, written `type :: word :: expression`. Blank lines and
lines that start with `#` are skipped. Lines that cannot be taught are reported and leave the
lexicon as it is.
-/

namespace Apprentice

/-- What a line says that is neither blank nor a comment. Lines are numbered from one. -/
inductive CurriculumLine where
  | lesson (number : Nat) (wordType word expression : String)
  | malformed (number : Nat) (text : String)
  deriving DecidableEq, Repr

inductive CurriculumError where
  | malformed (text : String)
  | refused (cause : TeachError)
  deriving DecidableEq, Repr

def CurriculumError.message : CurriculumError → String
  | malformed text => "expected `type :: word :: expression`, got \"" ++ text ++ "\""
  | refused cause => cause.message

structure CurriculumReport where
  learned : Nat := 0
  unchanged : Nat := 0
  /-- The lines that were not taught, by number. -/
  failed : List (Nat × CurriculumError) := []
  deriving DecidableEq, Repr

namespace Curriculum

/-- Cuts a text at its first double colon. -/
def splitAtColons? : List Char → Option (List Char × List Char)
  | ':' :: ':' :: cs => some ([], cs)
  | c :: cs => (splitAtColons? cs).map fun (before, after) => (c :: before, after)
  | [] => none

/-- What a line says; nothing, if it is blank or a comment. -/
def readLine? (number : Nat) (line : List Char) : Option CurriculumLine :=
  let text := Text.trim line
  if text.isEmpty || text.head? == some '#' then none
  else
    let parts := do
      let (wordType, rest) ← splitAtColons? text
      let (word, expression) ← splitAtColons? rest
      guard (!(Text.trim word).isEmpty)
      return (wordType, word, expression)
    match parts with
    | some (wordType, word, expression) =>
      some (.lesson number (String.ofList (Text.trim wordType)) (String.ofList (Text.trim word))
        (String.ofList (Text.trim expression)))
    | none => some (.malformed number (String.ofList text))

def readLines (number : Nat) : List (List Char) → List CurriculumLine
  | [] => []
  | line :: lines => (readLine? number line).toList ++ readLines (number + 1) lines

/-- The lessons and malformed lines of a text, in order. -/
def read (text : String) : List CurriculumLine :=
  readLines 1 (Text.lines text)

/-- Teaches one lesson. -/
def teachLesson (lexicon : Lexicon) (wordType word expression : String) :
    Except TeachError (TeachOutcome × Lexicon) := do
  lexicon.teach word (← WordType.parse wordType) expression false

/-- Teaches what one line says and adds the result to a report. -/
def teachLine (state : CurriculumReport × Lexicon) (line : CurriculumLine) :
    CurriculumReport × Lexicon :=
  let (report, lexicon) := state
  match line with
  | .malformed number text =>
    (⟨report.learned, report.unchanged, report.failed ++ [(number, .malformed text)]⟩, lexicon)
  | .lesson number wordType word expression =>
    match teachLesson lexicon wordType word expression with
    | .ok (.unchanged, _) =>
      (⟨report.learned, report.unchanged + 1, report.failed⟩, lexicon)
    | .ok (_, taught) => (⟨report.learned + 1, report.unchanged, report.failed⟩, taught)
    | .error cause =>
      (⟨report.learned, report.unchanged, report.failed ++ [(number, .refused cause)]⟩, lexicon)

/-- Teaches a whole text, line by line. -/
def teach (lexicon : Lexicon) (text : String) : CurriculumReport × Lexicon :=
  (read text).foldl teachLine ({}, lexicon)

/-- Teaches the text of a file. -/
def learn (disk : Disk) (path : String) (lexicon : Lexicon) :
    Except StoreError (CurriculumReport × Lexicon) :=
  match disk.read? path with
  | some text => .ok (teach lexicon text)
  | none => .error (.read path)

/-- Teaches the texts of files, one after the other; one that is missing stops everything. -/
def learnAll (disk : Disk) : List String → Lexicon → Except StoreError Lexicon
  | [], lexicon => .ok lexicon
  | path :: paths, lexicon => do
    let (_, taught) ← learn disk path lexicon
    learnAll disk paths taught

end Curriculum

end Apprentice
