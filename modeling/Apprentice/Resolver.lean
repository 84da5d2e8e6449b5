import Apprentice.Diagnostic
import Apprentice.Lexicon.Word
import Apprentice.Lexicon.WordType

/-!
# Resolvers

Somebody outside who can be asked about words that are not in the lexicon. An answer is only advice:
it still has to be taught, so a bad one is refused like any other.
-/

namespace Apprentice

/-- A meaning that a resolver gives a word. -/
structure Concept where
  wordType : WordType
  expression : String
  deriving DecidableEq, Repr

inductive ResolveError where
  | unknown (word : String)
  | transport (word message : String)
  | badResponse (word message : String)
  deriving DecidableEq, Repr

def ResolveError.diagnostic : ResolveError → Diagnostic
  | unknown word =>
    ⟨"lexagent::resolver::unknown", some ("no resolver knows \"" ++ word ++ "\""),
      some ("Teach the word yourself: teach <word_type> \"" ++ word
        ++ "\" as \"<expression>\".")⟩
  | transport word message =>
    ⟨"lexagent::resolver::transport",
      some ("resolver request for \"" ++ word ++ "\" failed: " ++ message),
      some ("Check the resolver url and that the service is reachable. "
        ++ "Timeouts count as failures.")⟩
  | badResponse word message =>
    ⟨"lexagent::resolver::bad_response",
      some ("resolver returned an unusable answer for \"" ++ word ++ "\": " ++ message),
      some ("The service must answer with JSON: "
        ++ "\x7b\"word_type\": \"noun\", \"expression\": \"...\"\x7d.")⟩

/-- What comes of a request to a service. -/
inductive Reply where
  | body (text : String)
  | status (code : Nat)
  | failed (message : String)
  deriving DecidableEq, Repr

/-- The way to services on the network. -/
structure Client where
  /-- Asks at an address, and waits for at most so many milliseconds. -/
  fetch : (timeoutMillis : Nat) → (url : String) → Reply
  /-- Reads the meaning that the body of a reply tells. -/
  decode : (body : String) → Except String Concept

structure Resolver where
  name : String
  /-- The answer to a word. -/
  resolve : String → Except ResolveError Concept

namespace Resolver

/-- Knows nothing. -/
def silent : Resolver where
  name := "none"
  resolve word := .error (.unknown word)

/-- Knows the words of a list, in any spelling; of two entries for a word the later one counts. -/
def ofEntries (entries : List (String × Concept)) : Resolver where
  name := "static"
  resolve word :=
    let key := normalizeWord word
    match entries.reverse.find? fun entry => normalizeWord entry.1 == key with
    | some entry => .ok entry.2
    | none => .error (.unknown word)

/-- A service at an address, which has a page for every word. -/
def remote (client : Client) (url : String) (timeoutMillis : Nat) : Resolver where
  name := "http"
  resolve word :=
    let base := String.ofList (url.toList.reverse.dropWhile (· == '/')).reverse
    match client.fetch timeoutMillis (base ++ "/" ++ normalizeWord word) with
    | .body text => (client.decode text).mapError fun message => .badResponse word message
    | .status 404 => .error (.unknown word)
    | .status code => .error (.transport word ("HTTP " ++ toString code))
    | .failed message => .error (.transport word message)

end Resolver

end Apprentice
