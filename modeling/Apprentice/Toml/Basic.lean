/-!
# TOML values

The values of configuration files. Nothing that is configured is a fraction or a date, so of those
only their presence is kept.
-/

namespace Apprentice.Toml

inductive Value where
  | string (text : String)
  | integer (n : Int64)
  | float
  | boolean (value : Bool)
  | dateTime
  | array (items : List Value)
  /-- The members in the order in which they were written; no name occurs twice. -/
  | table (members : List (String × Value))
  deriving Repr

abbrev Table := List (String × Value)

def Table.get? (t : Table) (name : String) : Option Value :=
  (t.find? fun member => member.1 == name).map (·.2)

namespace Value

def string? : Value → Option String
  | string text => some text
  | _ => none

/-- An integer that is not negative. -/
def nat? : Value → Option Nat
  | integer n => if n < 0 then none else some n.toInt.toNat
  | _ => none

def array? : Value → Option (List Value)
  | array items => some items
  | _ => none

def table? : Value → Option Table
  | table members => some members
  | _ => none

/-- A name out of a list of names, written as a string, or as the only member of a table, with
nothing in it. -/
def label? : Value → Option String
  | string text => some text
  | table [(text, table [])] => some text
  | table [(text, array [])] => some text
  | _ => none

end Value

/-! ### Records -/

/-- A value with fields: a table, in which they have names, or an array, in which they stand in a
fixed order. A date counts as a table with none of the fields. -/
inductive Fields where
  | named (members : Table)
  | ordered (items : List Value)
  deriving Repr

def Value.fields? : Value → Option Fields
  | .table members => some (.named members)
  | .array items => some (.ordered items)
  | .dateTime => some (.named [])
  | _ => none

namespace Fields

/-- The field with a name, whose place in the fixed order is given too. -/
def get? (f : Fields) (name : String) (place : Nat) : Option Value :=
  match f with
  | named members => members.get? name
  | ordered items => items[place]?

/-- A field that has to be there. -/
def required? {α : Type} (f : Fields) (name : String) (place : Nat) (read? : Value → Option α) :
    Option α :=
  (f.get? name place).bind read?

/-- A field with a default for when it is not there. -/
def orDefault? {α : Type} (f : Fields) (name : String) (place : Nat) (fallback : α)
    (read? : Value → Option α) : Option α :=
  match f.get? name place with
  | some value => read? value
  | none => some fallback

/-- A field that may be missing. -/
def optional? {α : Type} (f : Fields) (name : String) (place : Nat) (read? : Value → Option α) :
    Option (Option α) :=
  f.orDefault? name place none fun value => (read? value).map some

end Fields

end Apprentice.Toml
