import Apprentice.Config.Basic
import Apprentice.Disk
import Apprentice.Toml.Parser
import Apprentice.Toml.Printer

/-!
# The configuration file

A configuration is kept as a TOML document. Every member may be missing, and then has its default;
members with other names do not count.
-/

namespace Apprentice

open Toml

/-! ### Reading -/

def WordType.ofValue? (v : Value) : Option WordType :=
  v.label?.bind WordType.ofLabel?

def Concept.ofValue? (v : Value) : Option Concept := do
  let fields ← v.fields?
  let wordType ← fields.required? "word_type" 0 WordType.ofValue?
  let expression ← fields.required? "expression" 1 Value.string?
  return ⟨wordType, expression⟩

/-- A table of concepts, in ascending order of the words. -/
def conceptsOfValue? (v : Value) : Option (List (String × Concept)) := do
  let entries ← (← v.table?).mapM fun (word, concept) => do
    return (word, ← Concept.ofValue? concept)
  return entries.mergeSort fun a b => decide (a.1 ≤ b.1)

def ResolverSettings.ofValue? (v : Value) : Option ResolverSettings := do
  let fields ← v.fields?
  let kind ← fields.orDefault? "kind" 0 ResolverKind.none fun v =>
    v.label?.bind ResolverKind.ofLabel?
  let url ← fields.optional? "url" 1 Value.string?
  let timeoutMillis ← fields.orDefault? "timeout_ms" 2 2000 Value.nat?
  let entries ← fields.orDefault? "entries" 3 [] conceptsOfValue?
  return ⟨kind, url, timeoutMillis, entries⟩

/-- One side of the grid. -/
def sideOfValue? (v : Value) : Option UInt32 := do
  let n ← v.nat?
  guard (n < UInt32.size)
  return UInt32.ofNat n

def stringsOfValue? (v : Value) : Option (List String) := do
  (← v.array?).mapM Value.string?

def Config.ofTable? (members : Table) : Option Config := do
  let fields := Fields.named members
  let standard : Config := {}
  let name ← fields.orDefault? "name" 0 standard.name Value.string?
  let memoryPath ← fields.optional? "memory_path" 1 Value.string?
  let seedPacks ← fields.orDefault? "seed_packs" 2 standard.seedPacks stringsOfValue?
  let seedsDirectory ← fields.optional? "seeds_dir" 3 Value.string?
  let curricula ← fields.orDefault? "curricula" 4 standard.curricula stringsOfValue?
  let worldWidth ← fields.orDefault? "world_width" 5 standard.worldWidth sideOfValue?
  let worldHeight ← fields.orDefault? "world_height" 6 standard.worldHeight sideOfValue?
  let logFilter ← fields.orDefault? "log_filter" 7 standard.logFilter Value.string?
  let resolver ← fields.orDefault? "resolver" 8 standard.resolver ResolverSettings.ofValue?
  return ⟨name, memoryPath, seedPacks, seedsDirectory, curricula, worldWidth, worldHeight,
    logFilter, resolver⟩

/-! ### Writing -/

/-- A member that is only written when there is something to write. -/
def optionalMember (name : String) (text : Option String) : Table :=
  (text.map fun text => (name, Value.string text)).toList

def stringsValue (texts : List String) : Value :=
  .array (texts.map .string)

def natValue (n : Nat) : Value :=
  .integer (Int64.ofNat n)

def Concept.toValue (c : Concept) : Value :=
  .table [("word_type", .string c.wordType.label), ("expression", .string c.expression)]

def ResolverSettings.toValue (settings : ResolverSettings) : Value :=
  .table ([("kind", .string settings.kind.label)] ++ optionalMember "url" settings.url
    ++ [("timeout_ms", natValue settings.timeoutMillis),
      ("entries", .table (settings.entries.map fun (word, concept) => (word, concept.toValue)))])

def Config.toTable (config : Config) : Table :=
  [("name", .string config.name)] ++ optionalMember "memory_path" config.memoryPath
    ++ [("seed_packs", stringsValue config.seedPacks)]
    ++ optionalMember "seeds_dir" config.seedsDirectory
    ++ [("curricula", stringsValue config.curricula),
      ("world_width", natValue config.worldWidth.toNat),
      ("world_height", natValue config.worldHeight.toNat),
      ("log_filter", .string config.logFilter), ("resolver", config.resolver.toValue)]

/-! ### Files -/

namespace Config

def load (disk : Disk) (path : String) : Except ConfigError Config :=
  match disk.read? path with
  | none => .error (.read path)
  | some text =>
    match (parse? text).bind ofTable? with
    | some config => .ok config
    | none => .error (.parse path)

/-- Writes the file, after the directories above it. -/
def save (config : Config) (disk : Disk) (path : String) : Except ConfigError Unit × Disk :=
  let above := Disk.parent path
  match disk.makeDirectory above with
  | (false, made) => (.error (.write above), made)
  | (true, made) =>
    match made.write path (documentText config.toTable) with
    | (true, written) => (.ok (), written)
    | (false, written) => (.error (.write path), written)

end Config

end Apprentice
