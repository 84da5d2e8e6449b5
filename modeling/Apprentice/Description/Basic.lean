import Apprentice.Lexicon.Basic

/-!
# Descriptions

What a command says about the objects that it means: noun and property words, some of them negated,
joined by `and` and `or`. A description is kept in disjunctive normal form, and every word carries
the condition that it had when it was read.
-/

namespace Apprentice

/-- A word of a description, with its condition. -/
structure Term where
  word : String
  negated : Bool
  predicate : Predicate
  deriving Repr

namespace Term

/-- Whether an object is what a single word says. -/
def fits (t : Term) (o : Object) : Bool :=
  t.predicate.test o != t.negated

/-- The word as it is said, with its negation. -/
def phrase (t : Term) : String :=
  if t.negated then "not " ++ t.word else t.word

/-- The term with the condition that its word has now. A word that no longer has one keeps the
condition it was read with. -/
def withCurrentMeaning (lexicon : Lexicon) (t : Term) : Term :=
  match (lexicon.get? t.word).bind fun entry => entry.meaning.predicate? with
  | some predicate => { t with predicate := predicate }
  | none => t

end Term

/-- Alternatives, each of them a conjunction of terms. -/
structure Description where
  alternatives : List (List Term)
  deriving Repr

namespace Description

def conjunction (terms : List Term) : Description :=
  ⟨[terms]⟩

/-- Alternatives that say nothing are left out. -/
def ofAlternatives (alternatives : List (List Term)) : Description :=
  ⟨alternatives.filter fun terms => !terms.isEmpty⟩

def isEmpty (d : Description) : Bool :=
  d.alternatives.isEmpty

/-- Whether an object is as described. Every object is, if there are no alternatives. -/
def fits (d : Description) (o : Object) : Bool :=
  d.isEmpty || d.alternatives.any fun terms => terms.all fun t => t.fits o

def withCurrentMeanings (lexicon : Lexicon) (d : Description) : Description :=
  ⟨d.alternatives.map fun terms => terms.map fun t => t.withCurrentMeaning lexicon⟩

/-- The words of all alternatives, in order. -/
def words (d : Description) : List String :=
  d.alternatives.flatten.map fun t => t.word

/-- The description as it is said. -/
def phrase (d : Description) : String :=
  if d.isEmpty then "anything"
  else
    String.intercalate " or " <|
      d.alternatives.map fun terms => String.intercalate " " (terms.map Term.phrase)

end Description

end Apprentice
