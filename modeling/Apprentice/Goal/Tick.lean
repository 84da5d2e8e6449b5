import Apprentice.Action.Execution
import Apprentice.Goal.Planning
import Apprentice.Goal.Store

/-!
# Ticks

In a tick every active goal, in the order in which they were opened, comes at most one step closer.
A goal without a plan is planned for; the next step of its plan is carried out; then its condition
is checked. A goal that is not achieved when its plan is exhausted is planned for anew in the next
tick.
-/

namespace Apprentice

/-- What happened to a goal in a tick. -/
inductive TickEvent where
  | planned (goal : GoalId) (strategy : String) (steps : List ActionKind)
  /-- There is no plan yet. -/
  | skipped (goal : GoalId) (reason : String)
  | executed (goal : GoalId) (kind : ActionKind) (outcome : StepOutcome)
  | completed (goal : GoalId)
  | failed (goal : GoalId) (reason : String)
  /-- The plan is exhausted, and the goal is not achieved. -/
  | replanning (goal : GoalId)
  deriving DecidableEq, Repr

structure TickReport where
  tick : Nat
  events : List TickEvent
  deriving DecidableEq, Repr

namespace TickReport

def questions (report : TickReport) : List String :=
  report.events.filterMap fun
    | .executed _ _ ⟨_, .question content⟩ => some content
    | _ => none

/-- What was said about the steps that were carried out. -/
def feedback (report : TickReport) : List String :=
  report.events.filterMap fun
    | .executed _ _ outcome => some outcome.feedback
    | _ => none

def completed (report : TickReport) : List GoalId :=
  report.events.filterMap fun
    | .completed goal => some goal
    | _ => none

def failed (report : TickReport) : List GoalId :=
  report.events.filterMap fun
    | .failed goal _ => some goal
    | _ => none

def isIdle (report : TickReport) : Bool :=
  report.events.isEmpty

end TickReport

/-! ### The state within a tick -/

structure Progress where
  goals : GoalStore
  plans : PlanTable
  world : World
  /-- The events of this tick, oldest first. -/
  events : List TickEvent
  deriving Repr

namespace Progress

def tell (p : Progress) (event : TickEvent) : Progress :=
  { p with events := p.events ++ [event] }

def dropPlan (p : Progress) (goal : GoalId) : Progress :=
  { p with plans := p.plans.erase goal }

def setPlan (p : Progress) (plan : Plan) : Progress :=
  { p with plans := p.plans.insert plan }

/-- Ends a goal that is achieved. -/
def complete (p : Progress) (goal : GoalId) : Progress :=
  let (changed, goals) := p.goals.complete goal
  let done := { p.dropPlan goal with goals := goals }
  if changed then done.tell (.completed goal) else done

/-- Ends a goal that can never be achieved. -/
def fail (p : Progress) (goal : GoalId) (reason : String) : Progress :=
  let (changed, goals) := p.goals.fail goal reason
  let done := { p with goals := goals }
  if changed then done.tell (.failed goal reason) else done

/-- The plan of a goal, made now if there is none. Without a plan the tick is over for the goal. -/
def ensurePlan (p : Progress) (g : Goal) (lexicon : Lexicon) : Except Progress Progress :=
  if p.plans.contains g.id then .ok p
  else
    match g.plan lexicon p.world with
    | .ok plan => .ok ((p.tell (.planned g.id plan.strategy plan.kinds)).setPlan plan)
    | .error e =>
      if e.isContradiction then .error (p.fail g.id e.reason)
      else .error (p.tell (.skipped g.id e.reason))

/-- Carries out the next step of a goal's plan. -/
def takeStep (p : Progress) (goal : GoalId) (lexicon : Lexicon) : Progress :=
  match p.plans.get? goal with
  | none => p
  | some plan =>
    match plan.nextStep? with
    | none => p
    | some step =>
      let (outcome, world) := step.execute lexicon p.world
      { p.tell (.executed goal step.kind outcome) with
        world := world, plans := p.plans.insert plan.advance }

/-- Whether the condition of a goal holds. A condition that is meant to change the world is not
tried, and never holds. -/
def checkCondition (p : Progress) (condition : Action) (lexicon : Lexicon) : Bool × Progress :=
  if condition.mutates then (false, p)
  else
    let (outcome, world) := condition.execute lexicon p.world
    (outcome.result.isTruthy, { p with world := world })

/-- What becomes of a goal that is not achieved: it goes on with its plan, starts it over, or has to
be planned for anew. -/
def continuePlan (p : Progress) (g : Goal) (lexicon : Lexicon) : Progress :=
  let replan :=
    let dropped := p.dropPlan g.id
    match g.plan lexicon p.world with
    | .ok _ => dropped.tell (.replanning g.id)
    | .error e =>
      if e.isContradiction then dropped.fail g.id e.reason
      else dropped.tell (.replanning g.id)
  match p.plans.get? g.id with
  | none => replan
  | some plan =>
    if !plan.isExhausted then p
    else if plan.repeatable then p.setPlan plan.rewind
    else replan

/-- Brings a goal one step closer. A goal to understand a word is achieved as soon as the word is
known. -/
def advanceGoal (p : Progress) (g : Goal) (lexicon : Lexicon) : Progress :=
  if g.kind = .understand ∧ g.concept.any lexicon.contains then p.complete g.id
  else
    match p.ensurePlan g lexicon with
    | .error stopped => stopped
    | .ok planned =>
      let (achieved, checked) :=
        (planned.takeStep g.id lexicon).checkCondition g.condition lexicon
      if achieved then checked.complete g.id else checked.continuePlan g lexicon

/-- The goal with an id, with the meanings that the words of its condition have now. -/
def advance (lexicon : Lexicon) (p : Progress) (goal : GoalId) : Progress :=
  match p.goals.get? goal with
  | none => p
  | some g => p.advanceGoal { g with condition := g.condition.withCurrentMeanings lexicon } lexicon

end Progress

/-! ### The scheduler -/

structure Scheduler where
  plans : PlanTable := {}
  /-- How many ticks have passed. -/
  ticks : Nat := 0
  deriving Repr

/-- What there is after a tick. -/
structure Ticked where
  report : TickReport
  scheduler : Scheduler
  goals : GoalStore
  world : World
  deriving Repr

/-- One tick. Only plans of active goals are kept, and the clock of the world advances. -/
def Scheduler.tick (scheduler : Scheduler) (goals : GoalStore) (lexicon : Lexicon)
    (world : World) : Ticked :=
  let last :=
    goals.activeIds.foldl (Progress.advance lexicon) ⟨goals, scheduler.plans, world, []⟩
  let ticks := scheduler.ticks + 1
  { report := ⟨ticks, last.events⟩
    scheduler := ⟨last.plans.retain last.goals.isActive, ticks⟩
    goals := last.goals
    world := last.world.advanceClock }

end Apprentice
