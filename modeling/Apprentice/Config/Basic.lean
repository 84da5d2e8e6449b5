import Apprentice.Resolver

/-!
# Configuration

What an agent starts with: where it keeps its lexicon, what it is taught at the start, how large its
world is, and whom it asks about unknown words.
-/

namespace Apprentice

/-- Where a configured resolver has its answers from. -/
inductive ResolverKind where
  | none
  | static
  | http
  deriving DecidableEq, Repr

def ResolverKind.label : ResolverKind → String
  | none => "none"
  | static => "static"
  | http => "http"

def ResolverKind.ofLabel? (label : String) : Option ResolverKind :=
  [ResolverKind.none, .static, .http].find? fun kind => kind.label == label

structure ResolverSettings where
  kind : ResolverKind := .none
  /-- The address of the service, for `http`. -/
  url : Option String := none
  timeoutMillis : Nat := 2000
  /-- The answers for `static`, in ascending order of the words. -/
  entries : List (String × Concept) := []
  deriving DecidableEq, Repr

structure Config where
  name : String := "lexagent"
  /-- The lexicon file. Without one the lexicon is not kept. -/
  memoryPath : Option String := none
  /-- The seed packs that are applied at the start. -/
  seedPacks : List String := ["core"]
  /-- The directory of further seed packs. -/
  seedsDirectory : Option String := none
  /-- The curriculum files that are taught at the start. -/
  curricula : List String := []
  worldWidth : UInt32 := 10
  worldHeight : UInt32 := 10
  logFilter : String := "info"
  resolver : ResolverSettings := {}
  deriving DecidableEq, Repr

/-- The configuration of an agent that knows nothing. -/
def Config.blank : Config :=
  { seedPacks := [] }

/-! ### Errors -/

/-- Why a service cannot be asked. -/
inductive ResolverFault where
  | missingUrl
  | unknownScheme (url : String)
  deriving DecidableEq, Repr

def ResolverFault.describe : ResolverFault → String
  | missingUrl => "http resolver without a url"
  | unknownScheme url => "\"" ++ url ++ "\" must start with http:// or https://"

inductive ConfigError where
  | read (path : String)
  | parse (path : String)
  | write (path : String)
  | resolver (fault : ResolverFault)
  deriving DecidableEq, Repr

def ConfigError.diagnostic : ConfigError → Diagnostic
  | read path =>
    ⟨"lexagent::config::read", some ("failed to read agent config: " ++ path),
      some ("Ensure the config file exists, or create one with "
        ++ "`lexagent init-config <path>`.")⟩
  | parse path =>
    ⟨"lexagent::config::parse", some ("failed to parse agent config: " ++ path), none⟩
  | write path =>
    ⟨"lexagent::config::write", some ("failed to write agent config: " ++ path),
      some "Ensure you have write permissions to the config directory."⟩
  | resolver fault =>
    ⟨"lexagent::config::resolver",
      some ("invalid resolver configuration: " ++ fault.describe),
      some ("`kind = \"http\"` needs a `url`; "
        ++ "`kind = \"static\"` reads its `entries` table.")⟩

/-! ### The configured resolver -/

def startsWith (start text : String) : Bool :=
  start.toList.isPrefixOf text.toList

/-- The resolver that the settings describe. A service needs an address of the web. -/
def ResolverSettings.build (client : Client) (settings : ResolverSettings) :
    Except ConfigError Resolver :=
  match settings.kind with
  | .none => .ok .silent
  | .static => .ok (.ofEntries settings.entries)
  | .http =>
    match settings.url.filter fun url => !(Text.trim url.toList).isEmpty with
    | none => .error (.resolver .missingUrl)
    | some url =>
      if startsWith "http://" url || startsWith "https://" url then
        .ok (.remote client url settings.timeoutMillis)
      else .error (.resolver (.unknownScheme url))

end Apprentice
