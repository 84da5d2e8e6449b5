import Apprentice.Agent.Error
import Apprentice.Goal.Tick
import Apprentice.Lexicon.Curriculum
import Apprentice.Lexicon.SeedFile
import Apprentice.Text.Quoted

/-!
# Agents

An agent has a lexicon, a world and goals. Its goals only make progress in ticks. What it has
learned outlives it in the lexicon file, if it is configured to have one.
-/

namespace Apprentice

structure Agent where
  config : Config
  lexicon : Lexicon
  world : World
  goals : GoalStore
  scheduler : Scheduler
  resolver : Resolver

/-! ### Starting -/

/-- The lexicon with the words of the configured seed packs and then of the curricula. -/
def Config.equip (config : Config) (disk : Disk) (lexicon : Lexicon) :
    Except AgentError Lexicon := do
  let (_, seeded) ←
    ((config.seedRegistry disk).applyAll config.seedPacks lexicon).mapError .seed
  (Curriculum.learnAll disk config.curricula seeded).mapError .store

/-- The lexicon in the configured file; empty, if there is none. -/
def Config.remembered (config : Config) (disk : Disk) : Except AgentError Lexicon :=
  match config.memoryPath with
  | some path => ((Lexicon.load disk path).map LoadReport.lexicon).mapError .store
  | none => .ok .empty

namespace Agent

/-- An agent with a lexicon and nothing else. -/
def new (config : Config) (lexicon : Lexicon) (resolver : Resolver) : Agent where
  config := config
  lexicon := lexicon
  world := World.new config.worldWidth config.worldHeight
  goals := {}
  scheduler := {}
  resolver := resolver

/-- An agent that knows nothing and keeps nothing. -/
def blank : Agent :=
  new .blank .empty .silent

def start (client : Client) (config : Config) (disk : Disk) : Except AgentError Agent := do
  let resolver ← (config.resolver.build client).mapError .config
  let lexicon ← config.equip disk (← config.remembered disk)
  return new config lexicon resolver

/-! ### Teaching -/

/-- Teaches a word directly. -/
def teach (agent : Agent) (word : String) (wordType : WordType) (expression : String)
    (replace : Bool) : Except TeachError (TeachOutcome × Agent) := do
  let (outcome, lexicon) ← agent.lexicon.teach word wordType expression replace
  return (outcome, { agent with lexicon := lexicon })

/-- Teaches the curriculum in a file. -/
def learn (agent : Agent) (disk : Disk) (path : String) :
    Except StoreError (CurriculumReport × Agent) := do
  let (report, lexicon) ← Curriculum.learn disk path agent.lexicon
  return (report, { agent with lexicon := lexicon })

/-! ### Goals -/

/-- Brings every active goal one step closer. -/
def tick (agent : Agent) : TickReport × Agent :=
  let t := agent.scheduler.tick agent.goals agent.lexicon agent.world
  (t.report, { agent with goals := t.goals, scheduler := t.scheduler, world := t.world })

/-- Ticks up to a number of times, as long as a goal is active. -/
def run (agent : Agent) : Nat → List TickReport × Agent
  | 0 => ([], agent)
  | ticks + 1 =>
    if agent.goals.active.isEmpty then ([], agent)
    else
      let (report, next) := agent.tick
      let (reports, last) := next.run ticks
      (report :: reports, last)

/-- Gives up a goal, and says whether it was active until now. -/
def cancel (agent : Agent) (id : GoalId) : Except AgentError (Bool × Agent) :=
  if (agent.goals.get? id).isNone then .error (.goalNotFound id)
  else
    let (cancelled, goals) := agent.goals.cancel id
    .ok (cancelled, { agent with goals := goals })

/-! ### Keeping the lexicon -/

/-- Writes the lexicon file, and says how many words it holds. -/
def checkpoint (agent : Agent) (disk : Disk) : Except AgentError Nat × Disk :=
  match agent.config.memoryPath with
  | some path =>
    let (saved, written) := agent.lexicon.save disk path
    (saved.mapError .store, written)
  | none => (.error .noMemoryPath, disk)

/-- Writes the lexicon file, if there is to be one, and says where. -/
def shutdown (agent : Agent) (disk : Disk) : Except AgentError (Option String) × Disk :=
  match agent.config.memoryPath with
  | some path =>
    let (saved, written) := agent.checkpoint disk
    (saved.map fun _ => some path, written)
  | none => (.ok none, disk)

/-! ### Summary -/

/-- The state of an agent on one line. -/
def summary (agent : Agent) : String :=
  "Agent \x7b name: " ++ Text.quoted agent.config.name
    ++ ", words: " ++ toString agent.lexicon.size
    ++ ", objects: " ++ toString agent.world.objects.length
    ++ ", goals: " ++ toString agent.goals.goals.length
    ++ ", tick: " ++ toString agent.scheduler.ticks
    ++ ", resolver: " ++ Text.quoted agent.resolver.name ++ " \x7d"

end Agent

end Apprentice
