import Apprentice.Action.Basic
import Apprentice.Utterance.Teach
import Apprentice.Utterance.Token

/-!
# Commands

How an utterance becomes an action. The shapes of commands are tried in a fixed order: a social
word, a conditional, an action word, an inquiry word, a relation, a property, and last a bare
description. Conditionals do not nest. What has none of these shapes, although every word is known,
is an action as well: to say so.
-/

namespace Apprentice.Utterance

/-! ### Parts of token lists -/

def owner? (t : Token) : Option Owner :=
  match t.meaning? with
  | some (.pronoun owner) => some owner
  | _ => none

def marker? (t : Token) : Option Marker :=
  match t.meaning? with
  | some (.clause marker) => some marker
  | _ => none

def temporalOrder? (t : Token) : Option TemporalOrder :=
  match t.meaning? with
  | some (.temporal order) => some order
  | _ => none

/-- The list without its first token, if that is one of the given words. -/
def stripLeading (words : List String) : List Token → List Token
  | [] => []
  | t :: ts => if t.isAnyOf words then ts else t :: ts

/-- The list without its last token, if that is one of the given words. -/
def stripTrailing (words : List String) (ts : List Token) : List Token :=
  if ts.getLast?.any fun t => t.isAnyOf words then ts.dropLast else ts

/-- The first token that satisfies a condition, with what stands before and after it. -/
def splitAtFirst? (p : Token → Bool) : List Token → Option (List Token × Token × List Token)
  | [] => none
  | t :: ts =>
    if p t then some ([], t, ts)
    else (splitAtFirst? p ts).map fun (before, found, after) => (t :: before, found, after)

/-! ### Descriptions and targets -/

/-- Reads alternatives, of which the first goes on after the given terms. `negated` says whether the
next word stands after an odd number of negations. -/
def readAlternatives (negated : Bool) (terms : List Term) :
    List Token → Option (List (List Term))
  | [] => if negated || terms.isEmpty then none else some [terms]
  | t :: ts =>
    match t.meaning? with
    | some (.predicate p) =>
      readAlternatives false (terms ++ [⟨t.normalized, negated, p⟩]) ts
    | some (.operator .not) => readAlternatives (!negated) terms ts
    | some (.operator .and) => readAlternatives negated terms ts
    | some (.operator .or) =>
      if terms.isEmpty then none
      else (readAlternatives negated [] ts).map fun alternatives => terms :: alternatives
    | _ => none

/-- Reads nouns and properties that are joined by connectives. -/
def description? (tokens : List Token) : Option Description :=
  (readAlternatives false [] (content tokens)).map Description.ofAlternatives

def target? : List Token → Option Target
  | [t] =>
    match t.objectName? with
    | some name => some (.named name)
    | none => (description? [t]).map .matching
  | tokens => (description? tokens).map .matching

/-! ### Checks -/

/-- `[is] A <relation> B` or `A is <relation> B`, given what stands around the relation. -/
def relationCheck? (before : List Token) (relation : Token) (after : List Token) : Option Action :=
  match stripTrailing ["is", "are"] before, after with
  | [l], [r] => do
    let left ← l.objectName?
    let right ← r.objectName?
    let predicate ← relation.meaning?.bind Meaning.relation?
    return .evaluateRelation relation.normalized predicate left right
  | _, _ => none

/-- `is A red` or `A is red`. -/
def propertyCheck? : List Token → Option Action
  | s :: t :: rest =>
    let name? :=
      if s.is "is" then t.objectName? else if t.is "is" then s.objectName? else none
    match name? with
    | some name => (description? rest).map (.verifyProperty name)
    | none => none
  | _ => none

/-- A relation, a property check, or a bare description. -/
def stateCheck? (tokens : List Token) : Option Action :=
  match splitAtFirst? (fun t => t.hasType .relation) (stripLeading ["is", "are"] tokens) with
  | some (before, relation, after) => relationCheck? before relation after
  | none =>
    propertyCheck? tokens <|> (description? tokens).map fun description => .query description none

/-- `<pronoun> has <description>`. -/
def possessionCheck? (holder : Token) (rest : List Token) : Option Action := do
  let owner ← owner? holder
  return .verifyPossession owner (← description? rest)

/-- Any check that can stand after `if`, `unless` and `what if`: that somebody has something, that
something exists, or a check of a state. -/
def check? (tokens : List Token) : Option Action :=
  let existence := fun (rest : List Token) => (description? rest).map .verifyExistence
  let other :=
    if tokens.getLast?.any fun t => t.isAnyOf ["exists", "exist"] then existence tokens.dropLast
    else stateCheck? tokens
  match tokens with
  | s :: t :: rest =>
    if t.isAnyOf ["have", "has"] then possessionCheck? s rest
    else if s.is "there" && t.isAnyOf ["is", "are", "exists"] then existence rest
    else other
  | _ => other

/-! ### Actions -/

/-- The words for the new object, and the name after `as`. -/
def creation? (rest : List Token) : Option Action :=
  match splitAtFirst? (fun t => t.is "as") rest with
  | some (before, _, [t]) => do
    let name ← t.binding?
    return .create (← description? before) (some name)
  | some _ => none
  | none => (description? rest).map fun description => .create description none

/-- A gift goes to the user, unless a pronoun after `to` says otherwise. -/
def gift? (rest : List Token) : Option Action :=
  let giveTo := fun (recipient : Owner) (before : List Token) =>
    (target? before).map fun target => Action.give target recipient
  match splitAtFirst? (fun t => t.is "to") rest with
  | none => giveTo .user rest
  | some (before, _, []) => giveTo .user before
  | some (before, _, [receiver]) => (owner? receiver).bind fun owner => giveTo owner before
  | some _ => none

def action? (verb : Verb) (rest : List Token) : Option Action :=
  match verb with
  | .create => creation? rest
  | .take => (target? rest).map .take
  | .destroy => (target? rest).map .destroy
  | .give => gift? rest
  | .put => do
    let (before, _, after) ← splitAtFirst? (fun t => t.isAnyOf ["in", "into"]) rest
    return .put (← target? before) (← target? after)

/-! ### Inquiries -/

/-- `<before|after> event <number>`. -/
def eventWindow? : List Token → Option Action
  | [order, event, number] => do
    guard (event.is "event" && number.isNumber)
    return .queryEvents (← temporalOrder? order) (← Text.readUInt64? number.normalized)
  | _ => none

/-- A taught word or an object's name, after `what do you know about`. -/
def knowledgeOf? : List Token → Option Action
  | [t] =>
    match t.role with
    | .objectName => some (.identify t.surface)
    | .entry _ => some (.knowledgeQuery (.word t.normalized))
    | _ => none
  | _ => none

/-- A supposition is kept as it was typed, but for blanks and articles. -/
def hypothesis? (supposition : List Token) : Option Action :=
  (check? supposition).map fun check =>
    .hypotheticalQuery check (String.intercalate " " (supposition.map fun t => t.surface))

/-- What follows `what is`: an object, a single word, or a description. -/
def definition? (rest : List Token) : Option Action :=
  match rest with
  | [t] =>
    match t.role with
    | .objectName => some (.identify t.surface)
    | .entry e =>
      match e.meaning.predicate? with
      | some predicate =>
        some (.query (.conjunction [⟨e.word, false, predicate⟩]) (some e.expression))
      | none => some (.knowledgeQuery (.word e.word))
    | _ => none
  | _ => (description? rest).map fun description => .query description none

/-- What may follow `what`, apart from a possession or knowledge question. -/
def openQuestion? (rest : List Token) : Option Action :=
  match rest with
  | t :: after =>
    if marker? t = some .if then hypothesis? after
    else if t.is "happened" then eventWindow? after
    else definition? (stripLeading ["is", "are"] rest)
  | [] => definition? []

def whatQuestion? (rest : List Token) : Option Action :=
  match rest with
  | [auxiliary, holder, verb] =>
    if auxiliary.isAnyOf ["do", "does"] && verb.isAnyOf ["have", "has"] then
      (owner? holder).map .queryInventory
    else openQuestion? rest
  | auxiliary :: _ :: know :: about :: subject =>
    if auxiliary.isAnyOf ["do", "does"] && know.is "know" && about.is "about" then
      knowledgeOf? subject
    else openQuestion? rest
  | _ => openQuestion? rest

/-- The words that `all` and the name of a word type stand for. -/
def wordsNamed (kind : Token) : KnowledgeSubject :=
  match WordType.ofName? kind.normalized with
  | some wordType => .wordType wordType
  | none => .everything

def listing? (rest : List Token) : Option Action :=
  let objects :=
    (description? (stripLeading ["all"] rest)).map fun description =>
      Action.query description none
  match rest with
  | [] => objects
  | [t] =>
    if t.is "events" then some .listEvents
    else if t.is "all" then some (.knowledgeQuery .everything)
    else objects
  | t :: after =>
    if t.is "events" then eventWindow? after
    else
      match after with
      | [kind] =>
        if t.is "all" && kind.isStructural && namesWordTypes kind.normalized then
          some (.knowledgeQuery (wordsNamed kind))
        else objects
      | _ => objects

def inquiry? (kind : Inquiry) (rest : List Token) : Option Action :=
  match kind with
  | .what => whatQuestion? rest
  | .whereabouts => (target? (stripLeading ["is", "are"] rest)).map .locate
  | .who => (target? (stripLeading ["has", "have", "is"] rest)).map .queryOwner
  | .list => listing? rest

/-! ### Commands -/

/-- A command that is no conditional. -/
def simpleCommand? (tokens : List Token) : Option Action :=
  match tokens with
  | [] => none
  | t :: rest =>
    if rest.isEmpty && t.hasType .social then some (.socialRespond t.normalized)
    else
      match t.meaning? with
      | some (.action verb) => action? verb rest
      | some (.inquiry kind) => inquiry? kind rest
      | _ => stateCheck? tokens

/-- What follows `if` or `unless`: a check, `then`, and a command that is neither a conditional nor
a hypothetical question. -/
def conditional? (negated : Bool) (rest : List Token) : Option Action := do
  let (before, _, after) ← splitAtFirst? (fun t => marker? t = some .then) rest
  guard (!after.head?.any fun t => (marker? t).isSome)
  let check ← check? before
  match ← simpleCommand? after with
  | .hypotheticalQuery .. => none
  | command => return .conditionalExecution check negated command

/-- The action that tokens without articles ask for. -/
def command? (tokens : List Token) : Option Action :=
  match tokens.head?.bind marker? with
  | some .if => conditional? false tokens.tail
  | some .unless => conditional? true tokens.tail
  | _ => simpleCommand? tokens

/-! ### Utterances -/

/-- What an utterance is taken for. -/
inductive Reading where
  | act (action : Action)
  | teach (request : TeachRequest)
  /-- Some words are unknown. -/
  | unknown (words : List String) (input : String)
  deriving Repr

/-- Reads an utterance. Teach instructions are recognised before any word is looked up. -/
def read (text : String) (lexicon : Lexicon) (world : World) : Except UtteranceError Reading :=
  match parseTeach text with
  | some request => request.map .teach
  | none =>
    let tokens := tokenize text lexicon world
    let input := Text.trimmed text
    match unknownWords tokens with
    | [] => .ok (.act ((command? (content tokens)).getD (.notUnderstood input)))
    | words => .ok (.unknown words input)

end Apprentice.Utterance
