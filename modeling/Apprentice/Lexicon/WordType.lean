import Apprentice.Expr.Basic
import Apprentice.Text.Blank
import Apprentice.Text.LowerCase

/-!
# Word types

A taught word has one of ten types, which decides what its meaning is made of.
-/

namespace Apprentice

inductive WordType where
  | noun
  | property
  | action
  | relation
  | inquiry
  | social
  | operator
  | conditional
  | pronoun
  | temporal
  deriving DecidableEq, Repr

namespace WordType

def all : List WordType :=
  [noun, property, action, relation, inquiry, social, operator, conditional, pronoun, temporal]

def label : WordType → String
  | noun => "noun"
  | property => "property"
  | action => "action"
  | relation => "relation"
  | inquiry => "inquiry"
  | social => "social"
  | operator => "operator"
  | conditional => "conditional"
  | pronoun => "pronoun"
  | temporal => "temporal"

/-- How many objects the meaning of a word talks about, if it is a condition on objects. -/
def arity? : WordType → Option Arity
  | noun | property => some .unary
  | relation => some .binary
  | _ => none

/-- The type with exactly this label. -/
def ofLabel? (label : String) : Option WordType :=
  all.find? fun wordType => wordType.label == label

/-- Reads a label in any letter case, with blanks around it. -/
def ofText? (text : String) : Option WordType :=
  ofLabel? (String.ofList (Text.lower (Text.trim text.toList)))

/-- Takes a plural ending off a lower-case name: `-ies` stands for `-y`, and `-s` is dropped. -/
def singular (name : List Char) : List Char :=
  match name.reverse with
  | 's' :: 'e' :: 'i' :: stem => stem.reverse ++ ['y']
  | 's' :: stem => stem.reverse
  | _ => name

/-- Reads a label or its plural, as in `list all properties`. -/
def ofName? (text : String) : Option WordType :=
  let name := Text.lower (Text.trim text.toList)
  all.find? fun wordType =>
    wordType.label.toList == name || wordType.label.toList == singular name

end WordType

end Apprentice
