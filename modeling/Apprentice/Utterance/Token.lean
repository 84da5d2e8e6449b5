import Apprentice.Lexicon.Basic
import Apprentice.Text.Number
import Apprentice.Utterance.Words
import Apprentice.World.Basic

/-!
# Tokens

The words of an utterance, each with the role it plays given the lexicon and the world. A taught
word brings its entry along, so that nothing has to be looked up again when the utterance is
understood.
-/

namespace Apprentice.Utterance

inductive Role where
  /-- A word of the command grammar itself. -/
  | structural
  /-- A taught word. -/
  | entry (entry : Entry)
  /-- The name of an object of the world. -/
  | objectName
  /-- The name after `as`, for an object that is to be made. -/
  | binding
  | number
  | unknown
  deriving Repr

structure Token where
  /-- The word as it was typed. -/
  surface : String
  normalized : String
  span : Span
  role : Role
  deriving Repr

namespace Token

def isStructural (t : Token) : Bool :=
  match t.role with
  | .structural => true
  | _ => false

/-- Whether a token is a certain word of the command grammar. -/
def is (t : Token) (word : String) : Bool :=
  t.isStructural && t.normalized == word

def isAnyOf (t : Token) (words : List String) : Bool :=
  t.isStructural && words.contains t.normalized

def isArticle (t : Token) : Bool :=
  t.isAnyOf articles

def isNumber (t : Token) : Bool :=
  match t.role with
  | .number => true
  | _ => false

def isUnknown (t : Token) : Bool :=
  match t.role with
  | .unknown => true
  | _ => false

/-- The name after `as`, as it was typed. -/
def binding? (t : Token) : Option String :=
  match t.role with
  | .binding => some t.surface
  | _ => none

/-- The object name that a token is, as it was typed. -/
def objectName? (t : Token) : Option String :=
  match t.role with
  | .objectName => some t.surface
  | _ => none

def entry? (t : Token) : Option Entry :=
  match t.role with
  | .entry e => some e
  | _ => none

def meaning? (t : Token) : Option Meaning :=
  t.entry?.map fun e => e.meaning

def hasType (t : Token) (wordType : WordType) : Bool :=
  t.entry?.any fun e => e.wordType == wordType

end Token

/-! ### Roles -/

/-- The role of a word, given the token before it. An object whose name is written exactly like a
word of the command grammar goes before that word. -/
def roleOf (lexicon : Lexicon) (world : World) (previous : Option Token)
    (surface normalized : String) : Role :=
  let follows := fun (word : String) => previous.any fun t => t.is word
  if follows "all" && namesWordTypes normalized then .structural
  else if follows "as" then .binding
  else
    match lexicon.get? normalized with
    | some e => .entry e
    | none =>
      let named := world.named? surface
      if structuralWords.contains normalized then
        if named.any fun o => o.name == surface then .objectName else .structural
      else if named.isSome then .objectName
      else if (Text.readInt64? normalized).isSome then .number
      else .unknown

/-- The tokens of words that follow a token. -/
def tokensAfter (lexicon : Lexicon) (world : World) (previous : Option Token) :
    List SpannedWord → List Token
  | [] => []
  | w :: ws =>
    let normalized := normalizeWord w.surface
    let t : Token :=
      ⟨w.surface, normalized, w.span, roleOf lexicon world previous w.surface normalized⟩
    t :: tokensAfter lexicon world (some t) ws

def tokenize (text : String) (lexicon : Lexicon) (world : World) : List Token :=
  tokensAfter lexicon world none (splitWords text)

/-- The unknown words among tokens, each of them once, in order. -/
def unknownWords (tokens : List Token) : List String :=
  ((tokens.filter Token.isUnknown).map fun t => t.normalized).eraseDups

/-- The tokens that are not articles. -/
def content (tokens : List Token) : List Token :=
  tokens.filter fun t => !t.isArticle

end Apprentice.Utterance
