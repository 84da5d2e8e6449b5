import Apprentice.Toml.Basic

/-!
# Building tables

A document writes its tables in pieces: under headers, and with dotted keys. A table may be opened
by a header of its own only once, and dotted keys only go through tables that were made by dotted
keys. So while a document is read, every table remembers how it came about.
-/

namespace Apprentice.Toml

/-- How a table came about. -/
inductive Origin where
  /-- It has a header of its own. -/
  | header
  /-- It is named on the way in a header. -/
  | passed
  /-- It is named on the way in a dotted key. -/
  | dotted
  deriving DecidableEq, Repr

/-- What stands under a key while a document is read. -/
inductive Node where
  | value (v : Value)
  | table (origin : Origin) (members : List (String × Node))
  /-- The tables that were opened by double headers so far. -/
  | tables (all : List (List (String × Node)))
  deriving Repr

abbrev Nodes := List (String × Node)

namespace Nodes

def get? (nodes : Nodes) (key : String) : Option Node :=
  (nodes.find? fun member => member.1 == key).map (·.2)

def erase (nodes : Nodes) (key : String) : Nodes :=
  nodes.filter fun member => member.1 != key

def set (nodes : Nodes) (key : String) (node : Node) : Nodes :=
  nodes.erase key ++ [(key, node)]

/-- Changes the table at the end of a path, and gives back what the change gives. Tables on the way
that do not exist are made; in a list of tables the path goes on in the last one. -/
def modifyAt {α : Type} (byDots : Bool) (path : List String)
    (change : Origin → Nodes → Option (α × Nodes)) (origin : Origin) (nodes : Nodes) :
    Option (α × Nodes) :=
  match path with
  | [] => change origin nodes
  | key :: path =>
    let within := fun (origin : Origin) (inner : Nodes) (wrap : Nodes → Node) => do
      let (found, changed) ← modifyAt byDots path change origin inner
      return (found, nodes.set key (wrap changed))
    match nodes.get? key with
    | none =>
      let made := if byDots then Origin.dotted else Origin.passed
      within made [] (.table made)
    | some (.value _) => none
    | some (.tables all) =>
      within .header (all.getLast?.getD []) fun changed => .tables (all.dropLast ++ [changed])
    | some (.table existing inner) =>
      if byDots && existing == .header then none
      else within existing inner (.table existing)

/-- Adds what a line with a key and a value says. -/
def addPair (nodes : Nodes) (path : List String) (key : String) (v : Value) : Option Nodes :=
  (modifyAt true path (fun origin inner =>
    if (!path.isEmpty && origin != .dotted) || (inner.get? key).isSome then none
    else some ((), inner ++ [(key, .value v)])) .header nodes).map (·.2)

end Nodes

/-! ### From nodes to values -/

mutual

def Node.toValue : Node → Value
  | .value v => v
  | .table _ members => .table (toTable members)
  | .tables all => .array (toTables all)

def toTable : List (String × Node) → Table
  | [] => []
  | (key, node) :: members => (key, node.toValue) :: toTable members

def toTables : List (List (String × Node)) → List Value
  | [] => []
  | members :: rest => .table (toTable members) :: toTables rest

end

/-! ### Documents -/

/-- What a line of a document says. -/
inductive Statement where
  | pair (path : List String) (key : String) (value : Value)
  | header (path : List String) (key : String)
  | doubleHeader (path : List String) (key : String)
  deriving Repr

/-- The table under whose header the reading is. -/
inductive Section where
  | top
  | single (path : List String) (key : String)
  | repeated (path : List String) (key : String)
  deriving Repr

/-- A document while it is read: the tables that are finished, and the current one. -/
structure Draft where
  finished : Nodes := []
  place : Section := .top
  current : Nodes := []
  deriving Repr

namespace Draft

/-- The finished tables together with the current one. -/
def finish (d : Draft) : Option Nodes :=
  let insertAt := fun (path : List String) (change : Nodes → Option Nodes) =>
    (Nodes.modifyAt false path (fun _ nodes => (change nodes).map ((), ·)) .header
      d.finished).map (·.2)
  match d.place with
  | .top => some d.current
  | .single path key =>
    insertAt path fun nodes =>
      match nodes.get? key with
      | none => some (nodes.set key (.table .header d.current))
      | some (.table origin _) =>
        if origin = .header then none else some (nodes.set key (.table .header d.current))
      | some _ => none
  | .repeated path key =>
    insertAt path fun nodes =>
      match nodes.get? key with
      | none => some (nodes.set key (.tables [d.current]))
      | some (.tables all) => some (nodes.set key (.tables (all ++ [d.current])))
      | some _ => none

/-- Opens a table. One that a header has passed already keeps what is in it. -/
def openTable (finished : Nodes) (path : List String) (key : String) : Option Draft := do
  let (inner, opened) ← finished.modifyAt false path (fun _ nodes =>
    match nodes.get? key with
    | none => some ([], nodes)
    | some (.table .passed inner) => some (inner, nodes.erase key)
    | some _ => none) .header
  return ⟨opened, .single path key, inner⟩

/-- Opens another table of a list of tables. -/
def openRepeated (finished : Nodes) (path : List String) (key : String) : Option Draft := do
  let (_, opened) ← finished.modifyAt false path (fun _ nodes =>
    match nodes.get? key with
    | none | some (.tables _) => some ((), nodes)
    | some _ => none) .header
  return ⟨opened, .repeated path key, []⟩

def add (d : Draft) : Statement → Option Draft
  | .pair path key value => do
    return { d with current := ← d.current.addPair path key value }
  | .header path key => do openTable (← d.finish) path key
  | .doubleHeader path key => do openRepeated (← d.finish) path key

end Draft

/-- The table of a document's statements, if they agree. -/
def tableOf? (statements : List Statement) : Option Table := do
  let draft ← statements.foldlM Draft.add {}
  return toTable (← draft.finish)

end Apprentice.Toml
