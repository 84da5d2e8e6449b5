import Apprentice.Description.Basic

/-!
# Making objects that fit

A blueprint for a new object that fits a description. The words that are not negated require values
of attributes and bounds on the size, as far as their conditions are simple; attributes that nothing
is required of take their defaults. What comes out is then tried against the whole description, so
that negations and conditions that are not simple count as well.

There are two kinds of failure. A contradiction says that the requirements exclude each other; a gap
says that no object could be made from the requirements alone.
-/

namespace Apprentice

/-- Requirements of one alternative that exclude each other. -/
inductive Conflict where
  | sizes (previous next : Int64) (word : String)
  | values (field : Expr.Attribute) (previous : Expr.Literal) (previousWord : String)
    (next : Expr.Literal) (word : String)
  | bounds (least greatest : Int64)
  | outOfBounds (size : Int64)
  | noOwner (text word : String)
  | ruledOut (word : String)
  deriving DecidableEq, Repr

/-- A literal as it stands in an expression. -/
def Expr.Literal.text : Expr.Literal → String
  | bool b => if b then "true" else "false"
  | int n => toString n
  | str s => "'" ++ s ++ "'"
  | null => "None"

def Conflict.message : Conflict → String
  | sizes previous next word =>
    "size cannot be both " ++ toString previous ++ " and " ++ toString next ++ " (" ++ word ++ ")"
  | values field previous previousWord next word =>
    field.label ++ " cannot be both " ++ previous.text ++ " (" ++ previousWord ++ ") and "
      ++ next.text ++ " (" ++ word ++ ")"
  | bounds least greatest =>
    "size must be at least " ++ toString least ++ " and at most " ++ toString greatest
  | outOfBounds size => "size " ++ toString size ++ " is outside the required range"
  | noOwner text word => "'" ++ text ++ "' is not a possible owner (" ++ word ++ ")"
  | ruledOut word => "something cannot be both " ++ word ++ " and not " ++ word

/-- Why no object could be made. -/
inductive Unsatisfiable where
  /-- The object that was tried does not fit these words. -/
  | gap (words : List String)
  /-- Every alternative has a conflict. -/
  | contradiction (conflicts : List Conflict)
  deriving DecidableEq, Repr

def Unsatisfiable.message : Unsatisfiable → String
  | gap words =>
    "I don't know how to make something that is " ++ String.intercalate " and " words
  | contradiction conflicts => String.intercalate "; " (conflicts.map Conflict.message)

/-! ### Requirements -/

/-- A value that an attribute has to have, and the word that asked for it last. -/
structure RequiredValue where
  field : Expr.Attribute
  value : Expr.Literal
  word : String
  deriving DecidableEq, Repr

/-- What the words read so far require of an object. -/
structure Requirements where
  values : List RequiredValue := []
  least : Int64 := Int64.minValue
  greatest : Int64 := Int64.maxValue
  size : Option Int64 := none
  /-- Words that ask for something that cannot be built to order. -/
  unsolved : List String := []
  deriving DecidableEq, Repr

namespace Requirements

def value? (r : Requirements) (field : Expr.Attribute) : Option RequiredValue :=
  r.values.find? fun required => required.field == field

def leaveUnsolved (r : Requirements) (word : String) : Requirements :=
  { r with unsolved := word :: r.unsolved }

def setValue (r : Requirements) (required : RequiredValue) : Requirements :=
  { r with values := required :: r.values.filter fun other => other.field != required.field }

/-- Adds what a word requires of one attribute. -/
def add (r : Requirements) (word : String) : Constraint → Except Conflict Requirements
  | .sizeAtLeast n => .ok { r with least := max r.least n }
  | .sizeAtMost n => .ok { r with greatest := min r.greatest n }
  | .equals .size (.int n) =>
    match r.size with
    | some previous =>
      if previous = n then .ok r else .error (.sizes previous n word)
    | none => .ok { r with size := some n }
  | .equals .position _ => .ok (r.leaveUnsolved word)
  | .equals field value =>
    match r.value? field with
    | some previous =>
      if previous.value = value then .ok (r.setValue ⟨field, value, word⟩)
      else .error (.values field previous.value previous.word value word)
    | none => .ok (r.setValue ⟨field, value, word⟩)

/-- Adds what a term requires. A negated term requires nothing, and neither does a condition that is
not simple. -/
def addTerm (r : Requirements) (t : Term) : Except Conflict Requirements :=
  if t.negated then .ok r
  else
    match t.predicate.constraints? with
    | none => .ok (r.leaveUnsolved t.word)
    | some constraints => constraints.foldlM (fun r c => r.add t.word c) r

/-- What a conjunction requires. -/
def ofTerms (terms : List Term) : Except Conflict Requirements :=
  terms.foldlM addTerm {}

/-- The required text of an attribute. -/
def text? (r : Requirements) (field : Expr.Attribute) : Option String :=
  match r.value? field with
  | some ⟨_, .str text, _⟩ => some text
  | _ => none

/-- The words that nothing was built for: besides those that are left unsolved, words that require a
value of another type than the attribute has. -/
def unbuilt (r : Requirements) : List String :=
  r.unsolved ++ r.values.filterMap fun required =>
    match required.field, required.value with
    | .size, _ => some required.word
    | _, .str _ => none
    | _, _ => some required.word

/-- The size within the bounds: the exact one, if it is required, or else the default size, or the
bound next to it. -/
def chosenSize (r : Requirements) : Except Conflict Int64 :=
  if r.greatest < r.least then .error (.bounds r.least r.greatest)
  else
    match r.size with
    | some n => if n < r.least ∨ r.greatest < n then .error (.outOfBounds n) else .ok n
    | none => .ok (max r.least (min r.greatest 5))

def chosenOwner (r : Requirements) : Except Conflict (Option Owner) :=
  match r.value? .owner with
  | some ⟨_, .str text, word⟩ =>
    match Owner.ofLabel? text with
    | some owner => .ok (some owner)
    | none => .error (.noOwner text word)
  | _ => .ok none

/-- The blueprint that meets the requirements. A name that is given goes before a required one. -/
def blueprint (r : Requirements) (name : Option String) : Except Conflict Blueprint := do
  let size ← r.chosenSize
  let owner ← r.chosenOwner
  return {
    name := name <|> r.text? .name
    shape := r.text? .shape
    color := r.text? .color
    size := some size
    material := r.text? .material
    owner := owner }

/-- Whether the required values alone make a condition true. -/
def force (r : Requirements) (p : Predicate) : Bool :=
  match p.constraints? with
  | none | some [] => false
  | some constraints =>
    constraints.all fun
      | .equals field value => (r.value? field).any fun required => required.value == value
      | _ => false

/-- Whether a negated term is contrary to what the other words require. -/
def ruleOut (r : Requirements) (t : Term) : Bool :=
  t.negated && !r.unbuilt.contains t.word && r.force t.predicate

end Requirements

/-! ### Synthesis -/

/-- An object of a blueprint, on which a description can be tried. -/
def Blueprint.candidate (blueprint : Blueprint) : Object :=
  blueprint.build 0 "candidate" (some ⟨0, 0⟩)

/-- A blueprint for an object that fits every term. -/
def synthesizeConjunction (terms : List Term) (name : Option String) :
    Except Unsatisfiable Blueprint := do
  let conflicting := fun (c : Conflict) => Unsatisfiable.contradiction [c]
  let requirements ← (Requirements.ofTerms terms).mapError conflicting
  let blueprint ← (requirements.blueprint name).mapError conflicting
  let failing := terms.filter fun t => !t.fits blueprint.candidate
  if failing.isEmpty then return blueprint
  match failing.find? requirements.ruleOut with
  | some t => .error (conflicting (.ruledOut t.word))
  | none => .error (.gap (failing.map fun t => t.word))

/-- Tries the alternatives in order. If none can be made, the first gap is the reason, or else all
the conflicts are. -/
def synthesizeFirst (name : Option String) : List (List Term) → Except Unsatisfiable Blueprint
  | [] => .error (.contradiction [])
  | terms :: alternatives =>
    match synthesizeConjunction terms name with
    | .ok blueprint => .ok blueprint
    | .error reason =>
      match synthesizeFirst name alternatives, reason with
      | .ok blueprint, _ => .ok blueprint
      | .error _, .gap words => .error (.gap words)
      | .error (.gap words), .contradiction _ => .error (.gap words)
      | .error (.contradiction later), .contradiction conflicts =>
        .error (.contradiction (conflicts ++ later))

/-- A blueprint for an object that fits the description, with the given name if there is one. -/
def Description.synthesize (d : Description) (name : Option String) :
    Except Unsatisfiable Blueprint :=
  if d.isEmpty then .ok { name := name } else synthesizeFirst name d.alternatives

end Apprentice
