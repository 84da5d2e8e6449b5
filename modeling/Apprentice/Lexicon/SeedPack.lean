import Apprentice.Lexicon.Basic

/-!
# Seed packs

A seed pack is a bundle of words for a fresh lexicon. Two packs come with the program: the words
that commands are built from, and small talk. Applying a pack never changes a meaning that is there.
-/

namespace Apprentice

structure SeedWord where
  word : String
  wordType : WordType
  expression : String
  deriving DecidableEq, Repr

structure SeedPack where
  id : String
  name : String
  version : String
  description : String
  words : List SeedWord
  /-- The directory of a pack that does not come with the program. -/
  directory : Option String
  deriving DecidableEq, Repr

/-- What became of the words of a pack. -/
structure SeedReport where
  id : String
  learned : Nat := 0
  /-- How many words were known before, with this or another meaning. -/
  skipped : Nat := 0
  failed : List (String × TeachError) := []
  deriving DecidableEq, Repr

namespace SeedPack

/-- The words that the command grammar builds on. -/
def core : SeedPack where
  id := "core"
  name := "Core command words"
  version := "0.1.0"
  description := "Action verbs, question words, description operators, pronouns, and "
    ++ "conditional and temporal markers the command grammar builds on."
  words := [
    ⟨"create", .action, "create"⟩, ⟨"make", .action, "create"⟩, ⟨"take", .action, "take"⟩,
    ⟨"get", .action, "take"⟩, ⟨"give", .action, "give"⟩, ⟨"destroy", .action, "destroy"⟩,
    ⟨"put", .action, "put"⟩, ⟨"what", .inquiry, "what"⟩, ⟨"which", .inquiry, "which"⟩,
    ⟨"where", .inquiry, "where"⟩, ⟨"who", .inquiry, "who"⟩, ⟨"list", .inquiry, "list"⟩,
    ⟨"and", .operator, "and"⟩, ⟨"or", .operator, "or"⟩, ⟨"not", .operator, "not"⟩,
    ⟨"i", .pronoun, "user"⟩, ⟨"me", .pronoun, "user"⟩, ⟨"you", .pronoun, "agent"⟩,
    ⟨"if", .conditional, "if"⟩, ⟨"unless", .conditional, "unless"⟩,
    ⟨"then", .conditional, "then"⟩, ⟨"before", .temporal, "before"⟩,
    ⟨"after", .temporal, "after"⟩]
  directory := none

/-- Greetings and thanks, with responses. -/
def social : SeedPack where
  id := "social"
  name := "Small talk"
  version := "0.1.0"
  description := "Greetings and thanks, with taught responses."
  words := [
    ⟨"hello", .social, "greeting"⟩, ⟨"hi", .social, "greeting"⟩, ⟨"thanks", .social, "gratitude"⟩,
    ⟨"goodbye", .social, "farewell"⟩, ⟨"response_to_hello", .social, "Hello!"⟩,
    ⟨"response_to_hello_2", .social, "Teach me something new."⟩,
    ⟨"response_to_hi", .social, "Hi there."⟩, ⟨"response_to_thanks", .social, "You're welcome."⟩,
    ⟨"response_to_goodbye", .social, "Goodbye. I'll remember what you taught me if you save."⟩]
  directory := none

/-- The packs that come with the program. -/
def bundled : List SeedPack :=
  [core, social]

/-- Teaches one word of a pack, unless the word is known. -/
def teachWord (state : SeedReport × Lexicon) (word : SeedWord) : SeedReport × Lexicon :=
  let (report, lexicon) := state
  if lexicon.contains word.word then
    (⟨report.id, report.learned, report.skipped + 1, report.failed⟩, lexicon)
  else
    match lexicon.teach word.word word.wordType word.expression false with
    | .ok (.learned, taught) =>
      (⟨report.id, report.learned + 1, report.skipped, report.failed⟩, taught)
    | .ok (_, taught) => (⟨report.id, report.learned, report.skipped + 1, report.failed⟩, taught)
    | .error cause =>
      (⟨report.id, report.learned, report.skipped, report.failed ++ [(word.word, cause)]⟩, lexicon)

/-- Teaches the words of a pack that are not known. -/
def apply (pack : SeedPack) (lexicon : Lexicon) : SeedReport × Lexicon :=
  pack.words.foldl teachWord (⟨pack.id, 0, 0, []⟩, lexicon)

end SeedPack

/-! ### Choosing packs -/

inductive SeedError where
  | notFound (id : String)
  deriving DecidableEq, Repr

def SeedError.diagnostic : SeedError → Diagnostic
  | notFound id =>
    ⟨"lexagent::seed::not_found", some ("seed pack not found: \"" ++ id ++ "\""),
      some ("Bundled packs are `core` and `social`. "
        ++ "External packs live in <dir>/<id>/seed.toml.")⟩

/-- The packs that can be applied, at most one of each id. -/
structure SeedRegistry where
  packs : List SeedPack
  deriving Repr

namespace SeedRegistry

def bundled : SeedRegistry :=
  ⟨SeedPack.bundled⟩

/-- Adds a pack, in place of one with its id. -/
def insert (registry : SeedRegistry) (pack : SeedPack) : SeedRegistry :=
  ⟨registry.packs.filter (fun other => other.id != pack.id) ++ [pack]⟩

def get (registry : SeedRegistry) (id : String) : Except SeedError SeedPack :=
  match registry.packs.find? fun pack => pack.id == id with
  | some pack => .ok pack
  | none => .error (.notFound id)

/-- The packs in the order of their ids. -/
def sorted (registry : SeedRegistry) : List SeedPack :=
  registry.packs.mergeSort fun a b => decide (a.id ≤ b.id)

def apply (registry : SeedRegistry) (id : String) (lexicon : Lexicon) :
    Except SeedError (SeedReport × Lexicon) := do
  let pack ← registry.get id
  return pack.apply lexicon

/-- Applies packs one after the other; an id without a pack stops everything. -/
def applyAll (registry : SeedRegistry) : List String → Lexicon →
    Except SeedError (List SeedReport × Lexicon)
  | [], lexicon => .ok ([], lexicon)
  | id :: ids, lexicon => do
    let (report, taught) ← registry.apply id lexicon
    let (reports, taught) ← registry.applyAll ids taught
    return (report :: reports, taught)

end SeedRegistry

end Apprentice
