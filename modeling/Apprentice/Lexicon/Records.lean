import Apprentice.Disk
import Apprentice.Json.Parser
import Apprentice.Json.Printer
import Apprentice.Lexicon.Basic

/-!
# The lexicon file

A lexicon is kept on disk as a list of records of word, type and expression, in the order of the
words. Reading it teaches every record again, so a file never brings in what could not be taught;
records that are refused are reported and skipped.
-/

namespace Apprentice

structure WordRecord where
  word : String
  wordType : WordType
  expression : String
  deriving DecidableEq, Repr

namespace WordRecord

def ofEntry (entry : Entry) : WordRecord :=
  ⟨entry.word, entry.wordType, entry.expression⟩

def toJson (r : WordRecord) : Json :=
  .object
    [(some "word", .string (some r.word)),
      (some "word_type", .string (some r.wordType.label)),
      (some "meaning_expression", .string (some r.expression))]

def text? : Json → Option String
  | .string text => text
  | _ => none

/-- A type is written as its label, or as an object whose one member has the label as its name and
nothing as its value. -/
def wordType? : Json → Option WordType
  | .string (some label) => WordType.ofLabel? label
  | .object [(some label, .null)] => WordType.ofLabel? label
  | _ => none

/-- The value of the only member with a name. -/
def member? (name : String) (members : List (Option String × Json)) : Option Json :=
  match members.filter fun m => m.1 == some name with
  | [m] => some m.2
  | _ => none

/-- A record is an object with three members, or a list of their values. Other members do not
count, but every member has a name that is a text. -/
def ofJson? : Json → Option WordRecord
  | .object members => do
    guard (members.all fun m => m.1.isSome)
    let word ← text? (← member? "word" members)
    let wordType ← wordType? (← member? "word_type" members)
    let expression ← text? (← member? "meaning_expression" members)
    return ⟨word, wordType, expression⟩
  | .array [word, wordType, expression] => do
    return ⟨← text? word, ← wordType? wordType, ← text? expression⟩
  | _ => none

/-- The records of a file's text. -/
def decode? (text : String) : Option (List WordRecord) := do
  match ← Json.parse? text with
  | .array items => items.mapM ofJson?
  | _ => none

/-- The text of a file with these records. -/
def encode (records : List WordRecord) : String :=
  Json.pretty (.array (records.map toJson)) ++ "\n"

end WordRecord

/-! ### Saving and loading -/

inductive StoreError where
  | read (path : String)
  | write (path : String)
  | decode (path : String)
  deriving DecidableEq, Repr

def StoreError.diagnostic : StoreError → Diagnostic
  | read path =>
    ⟨"lexagent::store::read", some ("failed to read " ++ path),
      some "Ensure the file exists and is readable."⟩
  | write path =>
    ⟨"lexagent::store::write", some ("failed to write " ++ path),
      some "Ensure the directory exists and you have write permissions."⟩
  | decode _ =>
    ⟨"lexagent::store::decode", none,
      some ("The file must be a JSON array of "
        ++ "\x7bword, word_type, meaning_expression\x7d records.")⟩

/-- What became of the records of a file. -/
structure LoadReport where
  lexicon : Lexicon := .empty
  loaded : Nat := 0
  /-- The words of the records that were refused, and why. -/
  skipped : List (String × TeachError) := []

namespace Lexicon

def records (lexicon : Lexicon) : List WordRecord :=
  lexicon.entries.map WordRecord.ofEntry

/-- Teaches one record and adds the result to a report. -/
def restoreRecord (report : LoadReport) (r : WordRecord) : LoadReport :=
  match report.lexicon.teach r.word r.wordType r.expression false with
  | .ok (_, lexicon) => ⟨lexicon, report.loaded + 1, report.skipped⟩
  | .error cause => ⟨report.lexicon, report.loaded, report.skipped ++ [(r.word, cause)]⟩

/-- The lexicon of a list of records, taught in order. -/
def restore (records : List WordRecord) : LoadReport :=
  records.foldl restoreRecord {}

/-- Reads a lexicon file; where there is none, the lexicon is empty. -/
def load (disk : Disk) (path : String) : Except StoreError LoadReport :=
  if !disk.pathExists path then .ok {}
  else
    match disk.read? path with
    | none => .error (.read path)
    | some text =>
      match WordRecord.decode? text with
      | none => .error (.decode path)
      | some records => .ok (restore records)

/-- Writes the lexicon file, and says how many words it holds. -/
def save (lexicon : Lexicon) (disk : Disk) (path : String) : Except StoreError Nat × Disk :=
  match disk.write path (WordRecord.encode lexicon.records) with
  | (true, written) => (.ok lexicon.size, written)
  | (false, written) => (.error (.write path), written)

end Lexicon

end Apprentice
