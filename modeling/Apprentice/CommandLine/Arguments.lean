import Apprentice.Text.Number

/-!
# Arguments of the program

The program is called with the name of a command, arguments of the command, and options, which stand
before or behind the name. An option is given as `--name value` or as `--name=value`; behind `--`
nothing is taken for an option.
-/

namespace Apprentice.CommandLine

inductive Command where
  | chat
  | teach (wordType word expression : String) (replace : Bool)
  | learn (file : String)
  /-- Lists the words of one type or all of them. -/
  | words (wordType : Option String)
  /-- Runs a script and then ticks a number of times. -/
  | run (script : String) (ticks : Nat)
  | seeds
  | initConfig (path : String)
  deriving DecidableEq, Repr

/-- What the program is called to do. -/
structure Invocation where
  /-- The configuration file. -/
  config : Option String
  /-- The lexicon file, in place of the configured one. -/
  memory : Option String
  command : Command
  deriving DecidableEq, Repr

/-- Why no command is carried out. -/
inductive Stop where
  | help
  | version
  | misuse
  deriving DecidableEq, Repr

/-! ### What may be given -/

inductive ArgumentKind where
  | text
  | path
  | number
  deriving DecidableEq, Repr

/-- Whether a text is an argument of a kind. A path has at least one character. -/
def ArgumentKind.admits : ArgumentKind → String → Bool
  | text, _ => true
  | path, value => !value.isEmpty
  | number, value => (Text.readUInt64? value).isSome

/-- The options and arguments of a command. -/
structure Shape where
  options : List (String × ArgumentKind) := []
  flags : List String := []
  arguments : List ArgumentKind := []
  deriving Repr

/-- Options that stand before or behind the name of the command. -/
def sharedOptions : List (String × ArgumentKind) :=
  [("config", .path), ("memory", .path)]

def shape? : String → Option Shape
  | "chat" => some {}
  | "teach" => some { flags := ["replace"], arguments := [.text, .text, .text] }
  | "learn" => some { arguments := [.path] }
  | "words" => some { options := [("type", .text)] }
  | "run" => some { options := [("script", .path), ("ticks", .number)] }
  | "seeds" => some {}
  | "init-config" => some { arguments := [.path] }
  | _ => none

/-! ### What is given -/

structure Given where
  options : List (String × String) := []
  flags : List String := []
  arguments : List String := []
  deriving Repr

namespace Given

def option? (g : Given) (name : String) : Option String :=
  (g.options.find? fun option => option.1 == name).map (·.2)

/-- Takes down an option, which must be known and be given only once. -/
def addOption (g : Given) (shape : Shape) (name value : String) : Except Stop Given :=
  match (shape.options ++ sharedOptions).find? fun option => option.1 == name with
  | none => .error .misuse
  | some (_, kind) =>
    if (g.option? name).isSome || !kind.admits value then .error .misuse
    else .ok { g with options := (name, value) :: g.options }

def addFlag (g : Given) (shape : Shape) (name : String) : Except Stop Given :=
  if name == "help" then .error .help
  else if shape.flags.contains name && !g.flags.contains name then
    .ok { g with flags := name :: g.flags }
  else .error .misuse

/-- Takes down the next argument, if there may be one more. -/
def addArgument (g : Given) (shape : Shape) (value : String) : Except Stop Given :=
  match shape.arguments[g.arguments.length]? with
  | some kind =>
    if kind.admits value then .ok { g with arguments := g.arguments ++ [value] }
    else .error .misuse
  | none => .error .misuse

def addArguments (shape : Shape) (g : Given) : List String → Except Stop Given
  | [] => .ok g
  | value :: values => do addArguments shape (← g.addArgument shape value) values

end Given

/-! ### Reading -/

/-- How a single argument looks. -/
inductive Look where
  /-- The mark behind which there are no options. -/
  | separator
  | long (name : String) (value : Option String)
  /-- A hyphen and letters. -/
  | short (letters : List Char)
  | plain
  deriving DecidableEq, Repr

def lookOf (argument : String) : Look :=
  match argument.toList with
  | ['-', '-'] => .separator
  | '-' :: '-' :: cs =>
    let name := cs.takeWhile (· != '=')
    let value :=
      match cs.dropWhile (· != '=') with
      | _ :: value => some (String.ofList value)
      | [] => none
    .long (String.ofList name) value
  | '-' :: c :: cs => .short (c :: cs)
  | _ => .plain

def takesValue (shape : Shape) (name : String) : Bool :=
  (shape.options ++ sharedOptions).any fun option => option.1 == name

/-- Reads the arguments that stand behind the name of a command. -/
def readGiven (shape : Shape) (g : Given) : List String → Except Stop Given
  | [] => .ok g
  | argument :: rest =>
    match lookOf argument with
    | .separator => g.addArguments shape rest
    | .plain => do readGiven shape (← g.addArgument shape argument) rest
    | .short letters => if letters.head? == some 'h' then .error .help else .error .misuse
    | .long name (some value) => do readGiven shape (← g.addOption shape name value) rest
    | .long name none =>
      if takesValue shape name then
        match rest with
        | value :: rest =>
          if lookOf value = .plain then do
            readGiven shape (← g.addOption shape name value) rest
          else .error .misuse
        | [] => .error .misuse
      else do readGiven shape (← g.addFlag shape name) rest

/-- The command with a name and what is given for it; nothing, if something is missing. -/
def command? (name : String) (g : Given) : Option Command :=
  match name, g.arguments with
  | "chat", [] => some .chat
  | "teach", [wordType, word, expression] =>
    some (.teach wordType word expression (g.flags.contains "replace"))
  | "learn", [file] => some (.learn file)
  | "words", [] => some (.words (g.option? "type"))
  | "run", [] => do
    let ticks := ((g.option? "ticks").bind Text.readUInt64?).getD 10
    return .run (← g.option? "script") ticks
  | "seeds", [] => some .seeds
  | "init-config", [path] => some (.initConfig path)
  | _, _ => none

/-- Whether help can be asked for with these arguments behind `help`. -/
def isHelpTopic : List String → Bool
  | [] => true
  | [topic] => topic == "help" || (shape? topic).isSome
  | _ => false

/-- Reads all arguments of the program, `g` being the options in front of the command. An option
behind the name of the command counts more than one in front of it. -/
def readFrom (g : Given) : List String → Except Stop Invocation
  | [] => .error .misuse
  | argument :: rest =>
    match lookOf argument with
    | .separator => .error .misuse
    | .short ('h' :: _) => .error .help
    | .short ('V' :: _) => .error .version
    | .short _ => .error .misuse
    | .long name (some value) => do readFrom (← g.addOption {} name value) rest
    | .long name none =>
      if takesValue {} name then
        match rest with
        | value :: rest =>
          if lookOf value = .plain then do readFrom (← g.addOption {} name value) rest
          else .error .misuse
        | [] => .error .misuse
      else if name == "help" then .error .help
      else if name == "version" then .error .version
      else .error .misuse
    | .plain =>
      match shape? argument with
      | some shape => do
        let inner ← readGiven shape {} rest
        match command? argument inner with
        | some command =>
          return ⟨inner.option? "config" <|> g.option? "config",
            inner.option? "memory" <|> g.option? "memory", command⟩
        | none => .error .misuse
      | none =>
        if argument == "help" && isHelpTopic rest then .error .help else .error .misuse

/-- Reads the arguments of the program. -/
def Invocation.read (arguments : List String) : Except Stop Invocation :=
  readFrom {} arguments

/-! ### Texts -/

def versionText : String :=
  "lexagent 0.1.0\n"

def helpText : String :=
  "Teachable command-interpretation agent\n"
    ++ "\n"
    ++ "Usage: lexagent [OPTIONS] <COMMAND>\n"
    ++ "\n"
    ++ "Commands:\n"
    ++ "  chat         Talk to the agent on stdin\n"
    ++ "  teach        Teach one word and save the lexicon\n"
    ++ "  learn        Teach every line of a curriculum file (`type :: word :: expression`)\n"
    ++ "  words        List known words\n"
    ++ "  run          Feed a script through the agent, then tick its goals\n"
    ++ "  seeds        List the seed packs available to `seed_packs`\n"
    ++ "  init-config  Write a default config file\n"
    ++ "  help         Print this message or the help of the given subcommand(s)\n"
    ++ "\n"
    ++ "Options:\n"
    ++ "      --config <CONFIG>  Agent config file (TOML)\n"
    ++ "      --memory <MEMORY>  Lexicon file. Overrides `memory_path` from the config\n"
    ++ "  -h, --help             Print help\n"
    ++ "  -V, --version          Print version\n"

end Apprentice.CommandLine
