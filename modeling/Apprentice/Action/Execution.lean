import Apprentice.Action.Answer

/-!
# Carrying out actions

The actions that change the world, and the execution of actions of all kinds. A change is an attempt
that ends in a miss or in an outcome together with a new world, so a miss leaves the world as it
was.
-/

namespace Apprentice

/-- A change of the world that may miss. -/
abbrev Attempt := Except Miss (StepOutcome × World)

namespace Attempt

/-- The outcome, and the world after it. -/
def settle (w : World) : Attempt → StepOutcome × World
  | .ok done => done
  | .error cause => (.ofMiss cause, w)

/-- An operation of the world, as part of an attempt. -/
def change {α : Type} (r : Except WorldError α) : Except Miss α :=
  r.mapError fun cause => .refused (.world cause)

def create (description : Description) (name : Option String) (w : World) : Attempt := do
  let blueprint ← (description.synthesize name).mapError fun cause =>
    Miss.refused (.unsatisfiable cause)
  let (id, next) ← change (w.create blueprint)
  return (⟨"Created " ++ next.nameOf id ++ " (" ++ description.phrase ++ ").", .created id⟩, next)

/-- Only what lies in the open and belongs to nobody can be taken. -/
def take (target : Target) (w : World) : Attempt := do
  let o ← target.resolve w
  match o.owner, w.containerOf? o.id with
  | .agent, _ => return (⟨"I already have " ++ o.name ++ ".", .object o.id⟩, w)
  | .user, _ => .error (.unavailable o.name .belongsToUser)
  | .world, some container => .error (.unavailable o.name (.insideContainer (w.nameOf container)))
  | .world, none =>
    let next ← change (w.setOwner o.id .agent)
    return (⟨"I took " ++ o.name ++ ".", .object o.id⟩, next)

def receiver : Owner → String
  | .user => "you"
  | .agent => "myself"
  | .world => "the world"

/-- Only what the apprentice has can be given away. -/
def give (target : Target) (recipient : Owner) (w : World) : Attempt := do
  let o ← target.resolve w
  if o.owner ≠ .agent then .error (.unavailable o.name .notHeld)
  else
    let next ← change (w.setOwner o.id recipient)
    return (⟨"I gave " ++ o.name ++ " to " ++ receiver recipient ++ ".", .object o.id⟩, next)

def destroy (target : Target) (w : World) : Attempt := do
  let o ← target.resolve w
  match w.remove o.id with
  | .ok (removed, next) =>
    return (⟨"Destroyed " ++ removed.name ++ ".", .object o.id⟩, next)
  | .error (.refused cause) => .error (.refused (.world cause))
  | .error .aborted => return (⟨"", .aborted⟩, w)

def put (target container : Target) (w : World) : Attempt := do
  let o ← target.resolve w
  let into ← container.resolve w
  if o.owner = .user then .error (.unavailable o.name .belongsToUser)
  else
    let next ← change (w.putInto o.id into.id)
    return (⟨"I put " ++ o.name ++ " in " ++ into.name ++ ".", .object o.id⟩, next)

/-- Takes an object out of whatever container it is in. -/
def retrieve (name : String) (w : World) : Attempt := do
  let o ← resolveNamed name w
  match w.containerOf? o.id with
  | none => return (⟨name ++ " is not inside anything.", .object o.id⟩, w)
  | some container =>
    let (_, next) ← change (w.takeOut o.id)
    return (⟨"I got " ++ name ++ " out of " ++ w.nameOf container ++ ".", .object o.id⟩, next)

end Attempt

/-- Puts the outcome of a check before what follows from it. If the check misses, so does the
whole. -/
def afterCheck (checked : StepOutcome × World) (next : StepOutcome → World → StepOutcome × World) :
    StepOutcome × World :=
  match checked.1.result with
  | .miss cause => (.ofMiss cause, checked.2)
  | .aborted => checked
  | _ => next checked.1 checked.2

/-- Carries out an action. -/
def Action.execute (lexicon : Lexicon) : Action → World → StepOutcome × World
  | create description name, w => (Attempt.create description name w).settle w
  | take target, w => (Attempt.take target w).settle w
  | give target recipient, w => (Attempt.give target recipient w).settle w
  | destroy target, w => (Attempt.destroy target w).settle w
  | put target container, w => (Attempt.put target container w).settle w
  | retrieveFromContainer name _, w => (Attempt.retrieve name w).settle w
  | query description definition, w => (Answer.query description definition w, w)
  | identify name, w => (Answer.identify name w, w)
  | locate target, w => (Answer.locate target w, w)
  | queryOwner target, w => (Answer.owners target w, w)
  | queryInventory owner, w => (Answer.inventory owner w, w)
  | evaluateRelation word predicate left right, w =>
    (Answer.relation word predicate left right w, w)
  | verifyProperty name description, w => (Answer.property name description w, w)
  | outputQuestion _ question, w => (⟨question, .question question⟩, w)
  | socialRespond word, w => (Answer.social word lexicon, w)
  | verifyUnderstanding word, w => (Answer.understanding word lexicon, w)
  | verifyPossession owner description, w => (Answer.possession owner description w, w)
  | verifyExistence description, w => (Answer.existence description w, w)
  | conditionalExecution check negated command, w =>
    afterCheck (check.execute lexicon w) fun checked afterwards =>
      if checked.result.isTruthy = negated then
        (⟨checked.feedback ++ " So I did nothing.", .truth false⟩, afterwards)
      else
        let (done, last) := command.execute lexicon afterwards
        (⟨checked.feedback ++ " " ++ done.feedback, done.result⟩, last)
  | hypotheticalQuery check supposition, w =>
    afterCheck (check.execute lexicon w) fun checked afterwards =>
      let truth := checked.result.isTruthy
      let feedback :=
        "If " ++ supposition ++ ": that would be " ++ (if truth then "true" else "false")
          ++ " right now."
      (⟨feedback, .truth truth⟩, afterwards)
  | listEvents, w => (Answer.allEvents w, w)
  | queryEvents order event, w => (Answer.eventWindow order event w, w)
  | knowledgeQuery subject, w => (Answer.knowledge subject lexicon w, w)
  | notUnderstood input, w =>
    (⟨"I know all the words in \"" ++ input ++ "\" but not what you want me to do.", .unit⟩, w)

end Apprentice
