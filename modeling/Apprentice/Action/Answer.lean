import Apprentice.Action.Outcome

/-!
# Answers

The actions that only look at the world and the lexicon. None of them gives back a world, so none of
them can change it.
-/

namespace Apprentice

/-! ### Finding objects -/

def idsOf (objects : List Object) : List ObjectId :=
  objects.map fun o => o.id

def namesOf (objects : List Object) : String :=
  String.intercalate ", " (objects.map fun o => o.name)

def resolveNamed (name : String) (w : World) : Except Miss Object :=
  match w.named? name with
  | some o => .ok o
  | none => .error (.noMatch name)

/-- The object that a target means. A description has to fit exactly one object. -/
def Target.resolve (target : Target) (w : World) : Except Miss Object :=
  match target with
  | named name => resolveNamed name w
  | matching description =>
    match w.filter description.fits with
    | [o] => .ok o
    | [] => .error (.noMatch target.phrase)
    | found => .error (.ambiguous target.phrase found.length)

/-- All the objects that a target may mean. -/
def Target.resolveAll (target : Target) (w : World) : Except Miss (List Object) :=
  match target with
  | named name => (resolveNamed name w).map ([·])
  | matching description =>
    match w.filter description.fits with
    | [] => .error (.noMatch target.phrase)
    | found => .ok found

namespace Answer

/-- An outcome, or a miss in its place. -/
def settle : Except Miss StepOutcome → StepOutcome
  | .ok outcome => outcome
  | .error cause => .ofMiss cause

/-- A finding as the answer to a question. -/
def verdict (truth : Bool) (subject property : String) : StepOutcome :=
  if truth then ⟨"Yes, " ++ subject ++ " is " ++ property ++ ".", .truth true⟩
  else ⟨"No, " ++ subject ++ " is not " ++ property ++ ".", .truth false⟩

/-- Who has something, said by the apprentice. -/
def holder : Owner → String
  | .agent => "I have"
  | .user => "You have"
  | .world => "Nobody holds"

/-! ### Objects -/

def query (description : Description) (definition : Option String) (w : World) : StepOutcome :=
  let found := w.filter description.fits
  let listing :=
    if found.isEmpty then "I see no " ++ description.phrase ++ " objects."
    else description.phrase ++ " matches: " ++ namesOf found ++ "."
  let feedback :=
    match definition with
    | some meaning => "\"" ++ description.phrase ++ "\" means " ++ meaning ++ ". " ++ listing
    | none => listing
  ⟨feedback, .objects (idsOf found)⟩

def identify (name : String) (w : World) : StepOutcome :=
  settle ((resolveNamed name w).map fun o => ⟨o.describe ++ ".", .object o.id⟩)

/-- Where an object is. -/
def place (o : Object) (w : World) : String :=
  match w.containerOf? o.id, o.position with
  | some container, _ => "inside " ++ w.nameOf container
  | none, some cell => "at (" ++ toString cell.x ++ ", " ++ toString cell.y ++ ")"
  | none, none => "nowhere I can see"

def locate (target : Target) (w : World) : StepOutcome :=
  settle <| (target.resolve w).map fun o =>
    let possession :=
      match o.owner with
      | .world => "."
      | .agent => ", and I have it."
      | .user => ", and you have it."
    .ofText (o.name ++ " is " ++ place o w ++ possession)

def owners (target : Target) (w : World) : StepOutcome :=
  settle <| (target.resolveAll w).map fun found =>
    let lines := found.map fun o =>
      match o.owner with
      | .world => "nobody has " ++ o.name
      | .agent => "I have " ++ o.name
      | .user => "you have " ++ o.name
    .ofText (String.intercalate "; " lines ++ ".")

def inventory (owner : Owner) (w : World) : StepOutcome :=
  let held := w.filter fun o => o.owner == owner
  let feedback :=
    if held.isEmpty then holder owner ++ " nothing."
    else holder owner ++ ": " ++ namesOf held ++ "."
  ⟨feedback, .objects (idsOf held)⟩

def relation (word : String) (predicate : Predicate) (left right : String) (w : World) :
    StepOutcome :=
  settle do
    let l ← resolveNamed left w
    let r ← resolveNamed right w
    return verdict (predicate.testPair l r) left (word ++ " " ++ right)

def property (name : String) (description : Description) (w : World) : StepOutcome :=
  settle <| (resolveNamed name w).map fun o =>
    verdict (description.fits o) name description.phrase

def possession (owner : Owner) (description : Description) (w : World) : StepOutcome :=
  let held := w.filter fun o => o.owner == owner && description.fits o
  let feedback :=
    if held.isEmpty then holder owner ++ " no " ++ description.phrase ++ "."
    else holder owner ++ " " ++ namesOf held ++ "."
  ⟨feedback, .objects (idsOf held)⟩

def existence (description : Description) (w : World) : StepOutcome :=
  let found := w.filter description.fits
  let feedback :=
    if found.isEmpty then "There is no " ++ description.phrase ++ "."
    else "Found " ++ namesOf found ++ "."
  ⟨feedback, .objects (idsOf found)⟩

/-! ### The event log -/

def eventLines (events : List Event) : String :=
  String.intercalate "\n" (events.map Event.describe)

def allEvents (w : World) : StepOutcome :=
  let feedback :=
    if w.events.isEmpty then "Nothing has happened yet."
    else "Event log:\n" ++ eventLines w.events
  ⟨feedback, .events w.events⟩

/-- The events on one side of an event, without itself. -/
def eventsBeside (order : TemporalOrder) (event : Nat) (w : World) : List Event :=
  w.events.filter fun e =>
    match order with
    | .before => e.id < event
    | .after => event < e.id

def eventWindow (order : TemporalOrder) (event : Nat) (w : World) : StepOutcome :=
  if !w.events.any fun e => e.id == event then .ofMiss (.noMatch ("event " ++ toString event))
  else
    let found := eventsBeside order event w
    let period := order.label ++ " event " ++ toString event
    let feedback :=
      if found.isEmpty then "Nothing happened " ++ period ++ "."
      else "What happened " ++ period ++ ":\n" ++ eventLines found
    ⟨feedback, .events found⟩

/-! ### The lexicon -/

def understanding (word : String) (lexicon : Lexicon) : StepOutcome :=
  if lexicon.contains word then ⟨"I know \"" ++ word ++ "\".", .truth true⟩
  else ⟨"I still don't know \"" ++ word ++ "\".", .truth false⟩

def article : WordType → String
  | .action | .inquiry | .operator => "an"
  | _ => "a"

/-- What a word means and, if it describes objects, which ones it fits. -/
def explain (e : Entry) (w : World) : String :=
  let meaning := "\"" ++ e.word ++ "\" is " ++ article e.wordType ++ " " ++ e.wordType.label
    ++ " word meaning " ++ e.expression ++ "."
  match e.meaning.predicate? with
  | none => meaning
  | some predicate =>
    let fitting := w.filter predicate.test
    if fitting.isEmpty then meaning ++ " Nothing fits it right now."
    else meaning ++ " It fits " ++ namesOf fitting ++ "."

def wordsOfType (wordType : WordType) (lexicon : Lexicon) : String :=
  String.intercalate ", " ((lexicon.ofType wordType).map fun e => e.word)

/-- The words of a type behind the label of the type; nothing, if there are none. -/
def typeLine? (lexicon : Lexicon) (wordType : WordType) : Option String :=
  if (lexicon.ofType wordType).isEmpty then none
  else some (wordType.label ++ ": " ++ wordsOfType wordType lexicon)

def knowledge (subject : KnowledgeSubject) (lexicon : Lexicon) (w : World) : StepOutcome :=
  match subject with
  | .word word =>
    match lexicon.get? word with
    | some e => .ofText (explain e w)
    | none => .ofMiss (.noMatch ("the word \"" ++ word ++ "\""))
  | .wordType wordType =>
    if (lexicon.ofType wordType).isEmpty then
      .ofText ("I know no " ++ wordType.label ++ " words.")
    else
      .ofText ("The " ++ wordType.label ++ " words I know: " ++ wordsOfType wordType lexicon ++ ".")
  | .everything =>
    match WordType.all.filterMap (typeLine? lexicon) with
    | [] => .ofText "I don't know any words yet."
    | lines =>
      .ofText ("I know " ++ toString lexicon.size ++ " words.\n" ++ String.intercalate "\n" lines)

/-! ### Social words -/

/-- What is left of a text after a number of bytes, if a character ends there. -/
def dropBytes? : Nat → List Char → Option (List Char)
  | 0, cs => some cs
  | _ + 1, [] => none
  | n + 1, c :: cs => if c.utf8Size ≤ n + 1 then dropBytes? (n + 1 - c.utf8Size) cs else none

/-- Whether a word is the one that was asked for, or goes on with an underscore after it. -/
def continues? (asked : String) (word : String) : Option Bool :=
  if word = asked then some true
  else (dropBytes? asked.utf8ByteSize word.toList).map fun rest => rest.head? == some '_'

/-- The social entries that answer a word, in order; nothing, if an entry cannot be compared. -/
def responses? (word : String) (lexicon : Lexicon) : Option (List Entry) :=
  let asked := "response_to_" ++ word
  ((lexicon.withPrefix asked).filter fun e => e.wordType == .social).filterM fun e =>
    continues? asked e.word

/-- Replies with everything that has been taught as a response to a word. -/
def social (word : String) (lexicon : Lexicon) : StepOutcome :=
  match responses? word lexicon with
  | none => ⟨"", .aborted⟩
  | some [] =>
    ⟨"I recognize \"" ++ word ++ "\", but nobody has taught me how to answer it.", .unit⟩
  | some entries =>
    let content := String.intercalate " " (entries.map fun e => e.expression)
    ⟨content, .reply content⟩

end Answer

end Apprentice
