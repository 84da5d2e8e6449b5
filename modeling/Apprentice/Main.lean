import Apprentice.CommandLine.Run

/-!
# The program

Brings what an invocation needs from the disk into a value, carries the command out on it, and
writes back what changed. A chat is held line by line.
-/

namespace Apprentice.CommandLine

/-! ### The disk -/

/-- The path and the paths of the directories above it, outermost first. -/
def pathsAlong (path : String) : List String :=
  let parts := Disk.splitPath path.toList
  let starts := (List.range parts.length).map fun n =>
    String.ofList (List.intercalate ['/'] (parts.take (n + 1)))
  starts.filter fun start => !start.isEmpty

/-- Takes over a file. What is no text counts as a directory, so that it is never read or replaced.
-/
def observeFile (disk : Disk) (path : String) : IO Disk := do
  try
    return (disk.write path (← IO.FS.readFile path)).2
  catch _ => return (disk.makeDirectory path).2

/-- Takes over what stands at a path. -/
def observe (disk : Disk) (path : String) : IO Disk := do
  let place := (← IO.currentDir) / path
  if ← place.isDir then return (disk.makeDirectory path).2
  else if ← place.pathExists then observeFile disk path
  else return disk

/-- Takes over what stands at paths and above them. -/
def observeAll (disk : Disk) (paths : List String) : IO Disk :=
  (paths.flatMap pathsAlong).foldlM observe disk

/-- Takes over the documents of seed packs in the directories of a directory. -/
def observePacks (disk : Disk) (path : String) : IO Disk := do
  let place := (← IO.currentDir) / path
  if ← place.isDir then
    let entries ← place.readDir
    observeAll disk (entries.toList.map fun entry =>
      Disk.join (Disk.join path entry.fileName) "seed.toml")
  else return disk

/-- The path of a location. -/
def pathOf (location : Location) : String :=
  "/" ++ String.intercalate "/" location

/-- Makes the directories and writes the files that are there now and were not before. -/
def writeBack (before after : Disk) : IO Unit := do
  for location in after.directories do
    if !before.isDirectory location then IO.FS.createDirAll (pathOf location)
  for (location, text) in after.files do
    if before.file? location != some text then IO.FS.writeFile (pathOf location) text

/-! ### Invocations -/

/-- The files that a command reads or writes. -/
def Command.paths : Command → List String
  | learn file => [file]
  | run script _ => [script]
  | initConfig path => [path]
  | _ => []

/-- Everything on the disk that a command can touch under a configuration. -/
def observeFor (command : Command) (config : Config) (disk : Disk) : IO Disk := do
  let observed ← observeAll disk (config.memoryPath.toList ++ config.curricula ++ command.paths)
  match config.seedsDirectory with
  | some path => observePacks observed path
  | none => return observed

/-- Prints what is left to print, writes back what changed, and gives the exit status. -/
def conclude (before : Disk) (f : Finished) : IO UInt32 := do
  writeBack before f.disk
  IO.print f.output
  match f.error with
  | some e => IO.eprintln ("Error: " ++ e.message)
  | none => pure ()
  return f.status.toUInt32

/-- Answers lines until the input ends or an order ends the chat. -/
partial def converse (agent : Agent) (disk : Disk) : IO (Agent × Disk) := do
  let stdout ← IO.getStdout
  stdout.putStr prompt
  stdout.flush
  let line ← (← IO.getStdin).getLine
  if line.isEmpty then return (agent, disk)
  let turn := answer agent disk line.toList
  writeBack disk turn.disk
  stdout.putStr turn.output
  if turn.quits then return (turn.agent, turn.disk)
  else converse turn.agent turn.disk

/-- There is no way to the network from here. -/
def offline : Client where
  fetch _ _ := .failed "the service cannot be reached"
  decode _ := .error "the service cannot be reached"

def runCommand (command : Command) (config : Config) (disk : Disk) : IO UInt32 := do
  let before ← observeFor command config disk
  match command with
  | .chat =>
    match Agent.start offline config before with
    | .error e => conclude before ⟨"", before, some (.agent e)⟩
    | .ok agent =>
      IO.print (greeting agent)
      let (last, disk) ← converse agent before
      conclude disk (finish "" last disk)
  | command => conclude before (command.execute offline config before "")

end Apprentice.CommandLine

open Apprentice CommandLine in
def main (arguments : List String) : IO UInt32 := do
  match Invocation.read arguments with
  | .error stop =>
    IO.print stop.output
    if stop.status != 0 then IO.eprintln "Try 'lexagent --help'."
    return stop.status.toUInt32
  | .ok invocation =>
    let here ← IO.currentDir
    let disk ← observeAll (.bare (Disk.names here.toString)) invocation.config.toList
    match invocation.settings disk with
    | .error e => conclude disk ⟨"", disk, some (.agent (.config e))⟩
    | .ok config => runCommand invocation.command config disk
