import Apprentice.Config.File
import Apprentice.Lexicon.SeedPack

/-!
# Seed pack files

Further seed packs lie in the directories of a directory, each as a TOML document with the name
`seed.toml`. A pack whose document cannot be read is left out.
-/

namespace Apprentice

open Toml

def SeedWord.ofValue? (v : Value) : Option SeedWord := do
  let fields ← v.fields?
  let word ← fields.required? "word" 0 Value.string?
  let wordType ← fields.required? "word_type" 1 WordType.ofValue?
  let expression ← fields.required? "expression" 2 Value.string?
  return ⟨word, wordType, expression⟩

namespace SeedPack

def wordsOfValue? (v : Value) : Option (List SeedWord) := do
  (← v.array?).mapM SeedWord.ofValue?

/-- The pack that a document in a directory describes. -/
def ofTable? (directory : String) (members : Table) : Option SeedPack := do
  let document := Fields.named members
  let about ← document.required? "seed" 0 Value.fields?
  let words ← document.orDefault? "words" 1 [] wordsOfValue?
  let id ← about.required? "id" 0 Value.string?
  let name ← about.required? "name" 1 Value.string?
  let version ← about.required? "version" 2 Value.string?
  let description ← about.orDefault? "description" 3 "" Value.string?
  return ⟨id, name, version, description, words, some directory⟩

/-- The pack in a directory. -/
def load? (disk : Disk) (directory : String) : Option SeedPack := do
  let text ← disk.read? (Disk.join directory "seed.toml")
  ofTable? directory (← parse? text)

end SeedPack

/-- The packs that come with the program and those in the directories of a directory. A later pack
takes the place of one with the same id. -/
def SeedRegistry.discover (disk : Disk) (path : String) : SeedRegistry :=
  let found := (disk.subdirectories path).filterMap fun name =>
    SeedPack.load? disk (Disk.join path name)
  found.foldl SeedRegistry.insert .bundled

/-- The packs that a configuration can choose from. -/
def Config.seedRegistry (config : Config) (disk : Disk) : SeedRegistry :=
  match config.seedsDirectory with
  | some path => .discover disk path
  | none => .bundled

end Apprentice
