import Apprentice.Parsed
import Apprentice.Toml.Scalar
import Apprentice.Toml.Tree

/-!
# Reading TOML

A document is a sequence of lines: headers of tables, and keys with values. The reader only says
whether a text is well-formed, and gives its table if so.
-/

namespace Apprentice.Toml

/-- How deep arrays and inline tables may lie within each other, and how many parts a key has. -/
def depthLimit : Nat := 80

/-- The result of a reader that has taken at least one character. -/
def progress {α : Type} (cs : List Char) (value : α) (rest : List Char) :
    Option (Parsed Char α cs.length) :=
  if h : rest.length < cs.length then some ⟨value, rest, h⟩ else none

/-! ### Blanks and comments -/

/-- What follows a comment, which goes on to the end of the line. -/
def skipComment : List Char → List Char
  | '#' :: cs => cs.dropWhile isPlain
  | cs => cs

/-- What follows the end of a line that says nothing more. -/
def lineEnd? (cs : List Char) : Option (List Char) :=
  match skipComment (skipSpace cs) with
  | [] => some []
  | rest => lineBreak? rest

/-- What follows blanks, line breaks and comments, in front of or behind an item of an array. -/
def skipLines (cs : List Char) : Option (List Char) :=
  let after := skipSpace cs
  let rest := skipComment after
  match lineBreak? rest with
  | some next => if next.length < cs.length then skipLines next else none
  | none => if rest.length < after.length then none else some after
termination_by cs.length

theorem length_skipLines_le {cs rest : List Char} (h : skipLines cs = some rest) :
    rest.length ≤ cs.length := by
  rw [skipLines] at h
  split at h
  · split at h
    · have := length_skipLines_le h
      omega
    · contradiction
  · split at h
    · contradiction
    · exact (Option.some.inj h) ▸ (List.dropWhile_sublist isSpace).length_le
termination_by cs.length

/-! ### Keys -/

def isBareKeyChar (c : Char) : Bool :=
  c.isAlphanum || c == '_' || c == '-'

/-- One part of a key. -/
def simpleKey? (cs : List Char) : Option (String × List Char) :=
  match cs with
  | '"' :: _ | '\'' :: _ => lineString? cs
  | _ =>
    let bare := cs.takeWhile isBareKeyChar
    if bare.isEmpty then none else some (String.ofList bare, cs.dropWhile isBareKeyChar)

/-- The parts of a key, with blanks around them. -/
def keyParts? (cs : List Char) : Option (Parsed Char (List String) cs.length) := do
  let (part, rest) ← simpleKey? (skipSpace cs)
  let read ← progress cs part (skipSpace rest)
  match h : read.rest with
  | '.' :: rest =>
    have := read.length_tail_lt h
    let others ← keyParts? rest
    return ⟨part :: others.value, others.rest, Nat.lt_trans others.shorter this⟩
  | _ => return ⟨[part], read.rest, read.shorter⟩
termination_by cs.length

/-- A key, as the tables that it passes and its last part. -/
def key? (cs : List Char) : Option (List String × String × List Char) := do
  let parts ← keyParts? cs
  guard (parts.value.length < depthLimit)
  let last ← parts.value.getLast?
  return (parts.value.dropLast, last, parts.rest)

/-! ### Values -/

/-- The table of the pairs in an inline table. -/
def inlineTable? (pairs : List (List String × String × Value)) : Option Value := do
  let nodes ← pairs.foldlM (fun nodes (path, key, v) => Nodes.addPair nodes path key v) []
  return .table (toTable nodes)

mutual

/-- A value, at a depth of nesting. -/
def value (depth : Nat) (cs : List Char) : Option (Parsed Char Value cs.length) :=
  match cs with
  | '[' :: rest =>
    if depth + 1 < depthLimit then do
      let items ← arrayTail (depth + 1) rest
      return ⟨.array items.value, items.rest, Nat.lt_succ_of_lt items.shorter⟩
    else none
  | '\x7b' :: rest =>
    if depth + 1 < depthLimit then
      match skipSpace rest with
      | '\x7d' :: after => progress _ (.table []) after
      | _ => do
        let pairs ← inlineTail (depth + 1) rest
        let table ← inlineTable? pairs.value
        return ⟨table, pairs.rest, Nat.lt_succ_of_lt pairs.shorter⟩
    else none
  | cs => do
    let (scalar, rest) ← scalar? cs
    progress cs scalar rest
termination_by 2 * cs.length

/-- The items of an array up to its closing bracket, which a comma may precede. -/
def arrayTail (depth : Nat) (cs : List Char) : Option (Parsed Char (List Value) cs.length) := do
  match hstart : skipLines cs with
  | none => none
  | some (']' :: rest) => progress cs [] rest
  | some start =>
    have := length_skipLines_le hstart
    let first ← value depth start
    match ← skipLines first.rest with
    | ']' :: rest => progress cs [first.value] rest
    | ',' :: rest =>
      let comma ← progress cs () rest
      have := comma.shorter
      let others ← arrayTail depth comma.rest
      return ⟨first.value :: others.value, others.rest, Nat.lt_trans others.shorter this⟩
    | _ => none
termination_by 2 * cs.length + 1

/-- The pairs of an inline table up to its closing brace; there is at least one. -/
def inlineTail (depth : Nat) (cs : List Char) :
    Option (Parsed Char (List (List String × String × Value)) cs.length) := do
  let (path, key, rest) ← key? cs
  match rest with
  | '=' :: rest =>
    let start ← progress cs () (skipSpace rest)
    have := start.shorter
    let first ← value depth start.rest
    match skipSpace first.rest with
    | '\x7d' :: rest => progress cs [(path, key, first.value)] rest
    | ',' :: rest =>
      let comma ← progress cs () rest
      have := comma.shorter
      let others ← inlineTail depth comma.rest
      return ⟨(path, key, first.value) :: others.value, others.rest,
        Nat.lt_trans others.shorter this⟩
    | _ => none
  | _ => none
termination_by 2 * cs.length + 1

end

/-! ### Lines -/

/-- What stands between the brackets of a header, and what follows them. -/
def headerKey? (closing : List Char) (cs : List Char) :
    Option (List String × String × List Char) := do
  let (path, key, rest) ← key? cs
  guard (closing.isPrefixOf rest)
  return (path, key, rest.drop closing.length)

/-- What a line says, without its end. -/
def statement? (cs : List Char) : Option (Statement × List Char) :=
  match cs with
  | '[' :: '[' :: rest => do
    let (path, key, rest) ← headerKey? [']', ']'] rest
    return (.doubleHeader path key, rest)
  | '[' :: rest => do
    let (path, key, rest) ← headerKey? [']'] rest
    return (.header path key, rest)
  | _ => do
    let (path, key, rest) ← key? cs
    let rest ← character? '=' rest
    let v ← value 0 (skipSpace rest)
    return (.pair path key v.value, v.rest)

/-- What the lines of a text say. -/
def statements? (cs : List Char) : Option (List Statement) :=
  match skipSpace cs with
  | [] => some []
  | start =>
    let next := fun (rest : List Char) =>
      if rest.length < cs.length then statements? rest else none
    match lineEnd? start with
    | some rest => next rest
    | none => do
      let (said, rest) ← statement? start
      return said :: (← next (← lineEnd? rest))
termination_by cs.length

/-- The table of a document. A mark of the byte order in front does not count. -/
def parse? (text : String) : Option Table := do
  let cs := text.toList
  let body := if cs.head? == some '\ufeff' then cs.drop 1 else cs
  tableOf? (← statements? body)

end Apprentice.Toml
