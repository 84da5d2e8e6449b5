import Apprentice.Agent.Conversation

/-!
# Lines of a conversation

What the program prints for a line that is typed in a chat or stands in a script. A line that starts
with a colon is an order to the program; any other line is said to the agent.
-/

namespace Apprentice.CommandLine

/-! ### Columns -/

def spaces (n : Nat) : String :=
  String.ofList (List.replicate n ' ')

/-- A text with spaces behind it, up to a width. -/
def padRight (width : Nat) (text : String) : String :=
  text ++ spaces (width - text.length)

/-- A text with spaces in front of it, up to a width. -/
def padLeft (width : Nat) (text : String) : String :=
  spaces (width - text.length) ++ text

/-- A list of lines, each with its end. -/
def asLines (lines : List String) : String :=
  String.join (lines.map fun line => line ++ "\n")

/-! ### Reports -/

def entryLine (e : Entry) : String :=
  "  " ++ padRight 16 e.word ++ " " ++ e.wordType.label ++ " " ++ e.expression

/-- The entries of one type, or all entries. -/
def listed (lexicon : Lexicon) (wordType : Option WordType) : List Entry :=
  lexicon.entries.filter fun e => wordType.all fun t => e.wordType == t

def goalLine (g : Goal) : String :=
  "  " ++ goalText g.id ++ " [" ++ g.status.describe ++ "] " ++ g.description

/-- Plans are made silently. -/
def eventLine? (tick : Nat) (event : TickEvent) : Option String :=
  let line := fun (goal : GoalId) (text : String) =>
    some ("[" ++ toString tick ++ "] " ++ goalText goal ++ text)
  match event with
  | .executed goal _ outcome => line goal (": " ++ outcome.feedback)
  | .completed goal => line goal " completed"
  | .failed goal reason => line goal (" failed: " ++ reason)
  | .skipped goal reason => line goal (" waiting: " ++ reason)
  | .planned .. | .replanning .. => none

def tickText (report : TickReport) : String :=
  asLines (report.events.filterMap (eventLine? report.tick))

/-! ### Orders -/

/-- What there is after a line: the text that is printed for it, and whether it ends the
conversation. -/
structure Turn where
  output : String
  agent : Agent
  disk : Disk
  quits : Bool := false

/-- Ticks a number of times, whether or not there are goals. -/
def tickTimes (agent : Agent) (output : String) : Nat → String × Agent
  | 0 => (output, agent)
  | n + 1 =>
    let (report, next) := agent.tick
    tickTimes next (output ++ tickText report) n

/-- A number of ticks. What is no number stands for one tick. -/
def tickCount (argument : String) : Nat :=
  ((Text.readInt32? argument).getD 1).toNat

/-- The number of a goal's id, which may be written in full. -/
def stripGoal : List Char → List Char
  | 'g' :: 'o' :: 'a' :: 'l' :: '-' :: cs => stripGoal cs
  | cs => cs

def cancelGoal (agent : Agent) (argument : String) : String × Agent :=
  match Text.readUInt64? (String.ofList (stripGoal argument.toList)) with
  | none => ("usage: :cancel <goal id>", agent)
  | some id =>
    match agent.cancel id with
    | .ok (true, next) => ("Cancelled " ++ goalText id ++ ".", next)
    | .ok (false, next) => (goalText id ++ " was already finished.", next)
    | .error e => (e.message, agent)

def stateGoal (agent : Agent) (argument : String) : String × Agent :=
  match agent.setGoal argument with
  | .ok (response, next) => (response.feedback, next)
  | .error e => (e.message, agent)

def savedLine : Except AgentError Nat → String
  | .ok count => "Saved " ++ toString count ++ " words."
  | .error e => e.message

def orderList : String :=
  "commands: :goal <text>, :tick [n], :goals, :cancel <id>, :words [type], :save, :quit"

/-- Carries out an order. -/
def order (agent : Agent) (disk : Disk) (name argument : String) : Turn :=
  match name with
  | "quit" | "q" | "exit" => ⟨"", agent, disk, true⟩
  | "tick" =>
    let (output, next) := tickTimes agent "" (tickCount argument)
    ⟨output, next, disk, false⟩
  | "goal" =>
    let (line, next) := stateGoal agent argument
    ⟨asLines [line], next, disk, false⟩
  | "goals" => ⟨asLines (agent.goals.goals.map goalLine), agent, disk, false⟩
  | "cancel" =>
    let (line, next) := cancelGoal agent argument
    ⟨asLines [line], next, disk, false⟩
  | "words" =>
    ⟨asLines ((listed agent.lexicon (WordType.ofText? argument)).map entryLine), agent, disk,
      false⟩
  | "save" =>
    let (saved, written) := agent.checkpoint disk
    ⟨asLines [savedLine saved], agent, written, false⟩
  | _ => ⟨asLines [orderList], agent, disk, false⟩

/-- Answers a line. Blank lines are passed over. -/
def answer (agent : Agent) (disk : Disk) (line : List Char) : Turn :=
  match Text.trim line with
  | [] => ⟨"", agent, disk, false⟩
  | ':' :: cs =>
    let name := cs.takeWhile fun c => !Text.isBlank c
    let argument := Text.trim (cs.dropWhile fun c => !Text.isBlank c)
    order agent disk (String.ofList name) (String.ofList argument)
  | text =>
    let (response, next) := agent.process (String.ofList text)
    ⟨asLines [response.feedback], next, disk, false⟩

/-! ### Chats and scripts -/

def prompt : String :=
  "> "

def greeting (agent : Agent) : String :=
  "lexagent ready (" ++ toString agent.lexicon.size
    ++ " words). Teach with: teach <type> \"<word>\" as \"<expression>\". :quit to leave.\n"

/-- A chat over all lines that are typed. There is a prompt in front of every line, and one at the
end of the input. -/
def chat (agent : Agent) (disk : Disk) (output : String) : List (List Char) → Turn
  | [] => ⟨output ++ prompt, agent, disk, false⟩
  | line :: lines =>
    let turn := answer agent disk line
    let written := output ++ prompt ++ turn.output
    if turn.quits then { turn with output := written }
    else chat turn.agent turn.disk written lines

/-- The lines of a script, without blank lines and comments. -/
def scriptLines (text : String) : List (List Char) :=
  ((Text.lines text).map Text.trim).filter fun line => !line.isEmpty && line.head? != some '#'

/-- Answers the lines of a script, each of which is printed first. -/
def perform (agent : Agent) (disk : Disk) (output : String) : List (List Char) → Turn
  | [] => ⟨output, agent, disk, false⟩
  | line :: lines =>
    let turn := answer agent disk line
    let written := output ++ prompt ++ String.ofList line ++ "\n" ++ turn.output
    if turn.quits then { turn with output := written }
    else perform turn.agent turn.disk written lines

end Apprentice.CommandLine
