import Apprentice.CommandLine.Arguments
import Apprentice.CommandLine.Session

/-!
# Commands of the program

What each command prints, what it leaves on the disk, and whether it fails. A command that fails
keeps what it printed before.
-/

namespace Apprentice.CommandLine

inductive RunError where
  | agent (cause : AgentError)
  | script (path : String)
  deriving DecidableEq, Repr

def RunError.message : RunError → String
  | agent cause => cause.message
  | script path => "failed to read script: " ++ path

/-- What there is after a command. -/
structure Finished where
  output : String
  disk : Disk
  error : Option RunError := none
  deriving Repr

/-- The exit status. -/
def Finished.status (f : Finished) : Nat :=
  if f.error.isSome then 1 else 0

/-- The exit status of a call that carries out no command. -/
def Stop.status : Stop → Nat
  | misuse => 2
  | _ => 0

def Stop.output : Stop → String
  | help => helpText
  | version => versionText
  | misuse => ""

/-! ### Configuration -/

/-- The configuration that an invocation asks for. -/
def Invocation.settings (invocation : Invocation) (disk : Disk) : Except ConfigError Config := do
  let config ←
    match invocation.config with
    | some path => Config.load disk path
    | none => .ok {}
  return { config with memoryPath := invocation.memory <|> config.memoryPath }

/-! ### Commands -/

/-- Stops an agent, which keeps its lexicon. -/
def finish (output : String) (agent : Agent) (disk : Disk) : Finished :=
  match agent.shutdown disk with
  | (.ok (some path), written) => ⟨output ++ "Lexicon saved to " ++ path ++ "\n", written, none⟩
  | (.ok none, written) => ⟨output, written, none⟩
  | (.error e, written) => ⟨output, written, some (.agent e)⟩

def outcomeText : TeachOutcome → String
  | .learned => "Learned"
  | .unchanged => "Unchanged"
  | .replaced previous => "Replaced \x7b previous: " ++ Text.quoted previous ++ " \x7d"

def teachWord (agent : Agent) (disk : Disk) (wordType word expression : String)
    (replace : Bool) : Finished :=
  let taught := do agent.teach word (← WordType.parse wordType) expression replace
  match taught with
  | .ok (outcome, next) => finish (word ++ ": " ++ outcomeText outcome ++ "\n") next disk
  | .error e => ⟨"", disk, some (.agent (.teach e))⟩

def learnFile (agent : Agent) (disk : Disk) (file : String) : Finished :=
  match agent.learn disk file with
  | .ok (report, next) =>
    let summary :=
      "Learned " ++ toString report.learned ++ " words, " ++ toString report.unchanged
        ++ " already known, " ++ toString report.failed.length ++ " rejected."
    let failures := report.failed.map fun (number, e) =>
      "  line " ++ toString number ++ ": " ++ e.message
    finish (asLines (summary :: failures)) next disk
  | .error e => ⟨"", disk, some (.agent (.store e))⟩

def listWords (agent : Agent) (disk : Disk) (wordType : Option String) : Finished :=
  match wordType.mapM WordType.parse with
  | .ok wordType =>
    let entries := listed agent.lexicon wordType
    ⟨asLines (("Words (" ++ toString entries.length ++ "):") :: entries.map entryLine), disk,
      none⟩
  | .error e => ⟨"", disk, some (.agent (.teach e))⟩

def runScript (agent : Agent) (disk : Disk) (script : String) (ticks : Nat) : Finished :=
  match disk.read? script with
  | none => ⟨"", disk, some (.script script)⟩
  | some text =>
    let turn := perform agent disk "" (scriptLines text)
    let (reports, last) := turn.agent.run ticks
    finish (turn.output ++ String.join (reports.map tickText)) last turn.disk

def holdChat (agent : Agent) (disk : Disk) (input : String) : Finished :=
  let turn := chat agent disk (greeting agent) (Text.lines input)
  finish turn.output turn.agent turn.disk

/-- A pack on one line; a star stands before the packs that are applied at the start. -/
def packLine (config : Config) (pack : SeedPack) : String :=
  (if config.seedPacks.contains pack.id then "*" else " ") ++ " " ++ padRight 10 pack.id ++ " "
    ++ padRight 8 pack.version ++ " " ++ padLeft 3 (toString pack.words.length) ++ " words  "
    ++ pack.description

/-- Carries out a command that needs an agent. -/
def withAgent (client : Client) (config : Config) (disk : Disk) (next : Agent → Finished) :
    Finished :=
  match Agent.start client config disk with
  | .ok agent => next agent
  | .error e => ⟨"", disk, some (.agent e)⟩

/-- Carries out a command under a configuration, `input` being what is typed. -/
def Command.execute (client : Client) (command : Command) (config : Config) (disk : Disk)
    (input : String) : Finished :=
  match command with
  | .initConfig path =>
    match config.save disk path with
    | (.ok (), written) => ⟨"Wrote default config to " ++ path ++ "\n", written, none⟩
    | (.error e, written) => ⟨"", written, some (.agent (.config e))⟩
  | .seeds => ⟨asLines ((config.seedRegistry disk).sorted.map (packLine config)), disk, none⟩
  | .chat => withAgent client config disk fun agent => holdChat agent disk input
  | .teach wordType word expression replace =>
    withAgent client config disk fun agent => teachWord agent disk wordType word expression replace
  | .learn file => withAgent client config disk fun agent => learnFile agent disk file
  | .words wordType => withAgent client config disk fun agent => listWords agent disk wordType
  | .run script ticks => withAgent client config disk fun agent => runScript agent disk script ticks

/-- Carries out an invocation. -/
def Invocation.execute (client : Client) (invocation : Invocation) (disk : Disk)
    (input : String) : Finished :=
  match invocation.settings disk with
  | .ok config => invocation.command.execute client config disk input
  | .error e => ⟨"", disk, some (.agent (.config e))⟩

end Apprentice.CommandLine
