import Apprentice.Description.Synthesis
import Apprentice.Goal.Plan
import Apprentice.World.Basic

/-!
# Planning

How a goal becomes a plan. To have something, the apprentice takes an object that nobody owns, out
of its container if need be, and otherwise makes one. A goal that nothing can be done for now is a
gap and stays active; a goal whose description contradicts itself never succeeds.
-/

namespace Apprentice

/-- Why there is no plan. -/
inductive PlanningCause where
  /-- The condition of the goal is not of the kind that the goal needs. -/
  | malformed (kind : GoalKind)
  | unsatisfiable (cause : Unsatisfiable)
  deriving DecidableEq, Repr

structure PlanningError where
  goal : GoalId
  cause : PlanningCause
  deriving DecidableEq, Repr

namespace PlanningError

/-- Whether the goal can never be satisfied. -/
def isContradiction (e : PlanningError) : Bool :=
  match e.cause with
  | .unsatisfiable (.contradiction _) => true
  | _ => false

def reason (e : PlanningError) : String :=
  match e.cause with
  | .malformed kind => kind.label ++ " goal has no usable completion condition"
  | .unsatisfiable cause => cause.message

def diagnostic (e : PlanningError) : Diagnostic :=
  if e.isContradiction then
    ⟨"lexagent::planner::contradiction",
      some (goalText e.goal ++ " can never be satisfied: " ++ e.reason),
      some ("The description contradicts itself. "
        ++ "Set a new goal with a consistent description.")⟩
  else
    ⟨"lexagent::planner::gap",
      some ("cannot plan for " ++ goalText e.goal ++ " yet: " ++ e.reason),
      some ("The goal stays active. "
        ++ "Teach the missing words or meanings and it will be retried.")⟩

end PlanningError

/-! ### Names for new objects -/

/-- The words of the first alternative that are not negated, joined by underscores. -/
def nameStem (description : Description) : String :=
  let terms := description.alternatives.headD []
  let stem := String.intercalate "_" ((terms.filter fun t => !t.negated).map fun t => t.word)
  if stem.isEmpty then "thing" else stem

def numberedName (stem : String) (n : Nat) : String :=
  stem ++ "_" ++ toString n

/-- The first numbered name that no object has, from a number on, among at most the given count. -/
def freshNameFrom (stem : String) (w : World) (n : Nat) : Nat → String
  | 0 => stem
  | tries + 1 =>
    if (w.named? (numberedName stem n)).isNone then numberedName stem n
    else freshNameFrom stem w (n + 1) tries

/-- A name that no object has. Of one more names than there are objects, one is free. -/
def freshName (description : Description) (w : World) : String :=
  freshNameFrom (nameStem description) w 1 (w.objects.length + 1)

/-! ### Plans for each kind of goal -/

/-- The object with fewer containers around it, and the older one of two with equally many. -/
def nearer (w : World) (a b : Object) : Object :=
  if w.depth b.id < w.depth a.id ∨ (w.depth b.id = w.depth a.id ∧ b.id < a.id) then b else a

/-- The object with the fewest containers around it. -/
def nearest? (w : World) : List Object → Option Object
  | [] => none
  | o :: os => some (os.foldl (nearer w) o)

def understandingPlan (g : Goal) (lexicon : Lexicon) : Plan :=
  let word := g.concept.getD ""
  if lexicon.contains word then { goal := g.id, steps := [], strategy := "already known" }
  else
    { goal := g.id
      steps := [.outputQuestion word (g.question?.getD (understandQuestion word))]
      repeatable := true
      strategy := "ask for a definition" }

/-- Takes an object, out of its container first if it is in one. -/
def acquisitionPlan (g : Goal) (o : Object) (w : World) : Plan :=
  match (w.containerOf? o.id).bind w.find? with
  | some container =>
    { goal := g.id
      steps := [.retrieveFromContainer o.name container.name, .take (.named o.name)]
      strategy := "retrieve from " ++ container.name ++ " then take" }
  | none =>
    { goal := g.id, steps := [.take (.named o.name)], strategy := "take existing" }

def possessionPlan (g : Goal) (description : Description) (w : World) :
    Except PlanningError Plan :=
  let fitting := w.filter description.fits
  if fitting.any fun o => o.owner == .agent then
    .ok { goal := g.id, steps := [], strategy := "already held" }
  else
    match nearest? w (fitting.filter fun o => o.owner == .world) with
    | some o => .ok (acquisitionPlan g o w)
    | none =>
      let name := freshName description w
      match description.synthesize (some name) with
      | .error cause => .error ⟨g.id, .unsatisfiable cause⟩
      | .ok _ =>
        .ok
          { goal := g.id
            steps := [.create description (some name), .take (.named name)]
            strategy := "create then take" }

def existencePlan (g : Goal) (description : Description) (w : World) :
    Except PlanningError Plan :=
  if !(w.filter description.fits).isEmpty then
    .ok { goal := g.id, steps := [], strategy := "already exists" }
  else
    match description.synthesize none with
    | .error cause => .error ⟨g.id, .unsatisfiable cause⟩
    | .ok _ =>
      .ok { goal := g.id, steps := [.create description none], strategy := "create" }

/-- A plan for a goal. -/
def Goal.plan (g : Goal) (lexicon : Lexicon) (w : World) : Except PlanningError Plan :=
  match g.kind, g.condition with
  | .understand, _ => .ok (understandingPlan g lexicon)
  | .achievePossession, .verifyPossession _ description => possessionPlan g description w
  | .achieveExistence, .verifyExistence description => existencePlan g description w
  | .verifyState, condition =>
    .ok { goal := g.id, steps := [condition], strategy := "check once" }
  | kind, _ => .error ⟨g.id, .malformed kind⟩

end Apprentice
