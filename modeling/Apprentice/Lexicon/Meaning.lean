import Apprentice.Expr.Predicate
import Apprentice.Lexicon.WordType

/-!
# Meanings

What a taught word stands for, and why a word or a meaning is refused. Nouns, properties and
relations carry predicates; most other types name one of a few built-in behaviours; social words,
and conditional and temporal words that name none, carry plain text.
-/

namespace Apprentice

/-! ### Built-in behaviours -/

inductive Verb where
  | create
  | take
  | give
  | destroy
  | put
  deriving DecidableEq, Repr

def Verb.ofLabel? : String → Option Verb
  | "create" | "make" | "build" => some create
  | "take" | "get" | "grab" | "pick" => some take
  | "give" | "hand" => some give
  | "destroy" | "remove" | "delete" => some destroy
  | "put" | "place" => some put
  | _ => none

inductive Inquiry where
  | what
  | whereabouts
  | who
  | list
  deriving DecidableEq, Repr

def Inquiry.ofLabel? : String → Option Inquiry
  | "what" | "which" => some what
  | "where" => some whereabouts
  | "who" => some who
  | "list" | "show" => some list
  | _ => none

inductive Connective where
  | and
  | or
  | not
  deriving DecidableEq, Repr

def Connective.ofLabel? : String → Option Connective
  | "and" | "&&" => some and
  | "or" | "||" => some or
  | "not" | "!" => some not
  | _ => none

/-- The words that open the clauses of a conditional command. -/
inductive Marker where
  | if
  | unless
  | then
  deriving DecidableEq, Repr

def Marker.ofLabel? : String → Option Marker
  | "if" | "when" => some .if
  | "unless" => some .unless
  | "then" => some .then
  | _ => none

/-- On which side of an event another one lies. -/
inductive TemporalOrder where
  | before
  | after
  deriving DecidableEq, Repr

def TemporalOrder.label : TemporalOrder → String
  | before => "before"
  | after => "after"

def TemporalOrder.ofLabel? : String → Option TemporalOrder
  | "before" | "earlier" | "prior" => some before
  | "after" | "later" | "since" => some after
  | _ => none

/-! ### Refusals -/

/-- Why a word cannot be taught. -/
inductive TeachError where
  | invalidWord (word : String)
  | reserved (word : String)
  | unknownWordType (text : String)
  | duplicate (word : String) (wordType : WordType) (expression : String)
  | compile (word : String) (cause : Expr.Error)
  | badMeaning (word : String) (wordType : WordType) (expression : String)
  deriving DecidableEq, Repr

namespace TeachError

def message : TeachError → String
  | invalidWord word => "\"" ++ word ++ "\" is not a valid word"
  | reserved word => "\"" ++ word ++ "\" is a grammar word and cannot be taught"
  | unknownWordType text => "unknown word type \"" ++ text ++ "\""
  | duplicate word wordType expression =>
    "\"" ++ word ++ "\" is already known as " ++ wordType.label ++ " \"" ++ expression ++ "\""
  | compile word cause =>
    "cannot compile the meaning of \"" ++ word ++ "\": " ++ cause.message
  | badMeaning word wordType expression =>
    "\"" ++ expression ++ "\" is not a valid " ++ wordType.label ++ " meaning for \"" ++ word
      ++ "\""

def code : TeachError → String
  | invalidWord .. => "lexagent::teach::invalid_word"
  | reserved .. => "lexagent::teach::reserved"
  | unknownWordType .. => "lexagent::teach::unknown_type"
  | duplicate .. => "lexagent::teach::duplicate"
  | compile .. => "lexagent::teach::compile"
  | badMeaning .. => "lexagent::teach::bad_meaning"

/-- What a meaning of the type has to name. -/
def expected : WordType → String
  | .action => "one of: create, take, give, destroy, put"
  | .inquiry => "one of: what, which, where, who, list"
  | .operator => "one of: and, or, not"
  | .pronoun => "an owner: agent, user or world"
  | _ => "non-empty text"

def help : TeachError → String
  | invalidWord .. => "Words are a single token of letters, digits, '_', '-' or '\\''."
  | reserved .. =>
    "Articles, copulas and connectors like 'as', 'to', 'in' are built in. Choose another word."
  | unknownWordType .. =>
    "Word types: noun, property, action, relation, inquiry, social, operator, "
      ++ "conditional, pronoun, temporal."
  | duplicate .. => "Use `reteach` (or the --replace flag) to overwrite an existing meaning."
  | compile .. =>
    "Meanings are predicates over obj (or obj1/obj2 for relations), e.g. obj.color == 'red'."
  | badMeaning _ wordType _ => "Expected " ++ expected wordType ++ "."

def diagnostic (e : TeachError) : Diagnostic :=
  ⟨e.code, some e.message, some e.help⟩

end TeachError

/-- Reads a word type in any letter case, with blanks around it. -/
def WordType.parse (text : String) : Except TeachError WordType :=
  match WordType.ofText? text with
  | some wordType => .ok wordType
  | none => .error (.unknownWordType (Text.trimmed text))

/-! ### Meanings -/

inductive Meaning where
  /-- Of a noun or property: a condition on one object. -/
  | predicate (condition : Predicate)
  /-- A condition on two objects. -/
  | relation (condition : Predicate)
  | action (verb : Verb)
  | inquiry (kind : Inquiry)
  | operator (connective : Connective)
  | pronoun (owner : Owner)
  | clause (marker : Marker)
  | temporal (order : TemporalOrder)
  | text (content : String)
  deriving Repr

namespace Meaning

def predicate? : Meaning → Option Predicate
  | predicate p => some p
  | _ => none

def relation? : Meaning → Option Predicate
  | relation p => some p
  | _ => none

/-- The meaning that a trimmed text has for a word of the given type. -/
def ofTrimmed (word : String) (wordType : WordType) (expression : String) :
    Except TeachError Meaning :=
  let label := String.ofList (Text.lower expression.toList)
  let compiled := fun arity =>
    (Predicate.compile arity expression).mapError (TeachError.compile word)
  let named := fun (meaning : Option Meaning) =>
    match meaning with
    | some m => .ok m
    | none => .error (TeachError.badMeaning word wordType expression)
  let free := fun (meaning : Option Meaning) =>
    if expression.isEmpty then .error (TeachError.badMeaning word wordType expression)
    else .ok (meaning.getD (text expression))
  match wordType with
  | .noun | .property => return predicate (← compiled .unary)
  | .relation => return relation (← compiled .binary)
  | .action => named ((Verb.ofLabel? label).map action)
  | .inquiry => named ((Inquiry.ofLabel? label).map inquiry)
  | .operator => named ((Connective.ofLabel? label).map operator)
  | .pronoun => named ((Owner.ofLabel? label).map pronoun)
  | .conditional => free ((Marker.ofLabel? label).map clause)
  | .temporal => free ((TemporalOrder.ofLabel? label).map temporal)
  | .social => free none

/-- Blanks around a meaning do not count. -/
def compile (word : String) (wordType : WordType) (expression : String) :
    Except TeachError Meaning :=
  ofTrimmed word wordType (Text.trimmed expression)

end Meaning

end Apprentice
