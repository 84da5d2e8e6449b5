import Apprentice.Config.Basic
import Apprentice.Goal.Basic
import Apprentice.Lexicon.Records
import Apprentice.Lexicon.SeedPack
import Apprentice.Utterance.Error

/-!
# Failures of an agent

What can go wrong when an agent is started, spoken to or stopped. Most causes belong to a part of
the agent and keep their own diagnostics.
-/

namespace Apprentice

inductive AgentError where
  | config (cause : ConfigError)
  | store (cause : StoreError)
  | seed (cause : SeedError)
  | teach (cause : TeachError)
  | utterance (cause : Utterance.UtteranceError)
  | goalNotFound (id : GoalId)
  | noMemoryPath
  deriving DecidableEq, Repr

namespace AgentError

def diagnostic : AgentError → Diagnostic
  | config cause => cause.diagnostic
  | store cause => cause.diagnostic
  | seed cause => cause.diagnostic
  | teach cause => cause.diagnostic
  | utterance cause => cause.diagnostic
  | goalNotFound id =>
    ⟨"lexagent::agent::goal_not_found", some ("goal not found: " ++ goalText id),
      some ("List goals with `:goals` in chat, or check the id returned "
        ++ "when the goal was set.")⟩
  | noMemoryPath =>
    ⟨"lexagent::agent::no_memory", some "no memory path configured",
      some ("Pass `--memory <file>` or set `memory_path` in the config file "
        ++ "to persist the lexicon.")⟩

def message (e : AgentError) : String :=
  e.diagnostic.message.getD ""

end AgentError

end Apprentice
