import Apprentice.Proofs.Agent.Resolution

/-!
# Explained words

The resolver's answers divide the unknown words of an utterance. A word whose answer is accepted is
known afterwards, as the resolver has it, and nothing is asked about it. A word that is not known
afterwards was not explained, and there is an active goal to understand it.

That would be all, if words were known by their spellings. They are known by their normal forms, and
two words of an utterance can have the same one. So there are words that are known though they have
no answer, or another one that was refused: the answer to a different word was taught in their
place.
-/

namespace Apprentice

open Utterance

variable {resolver : Resolver} {lexicon : Lexicon} {words : List String} {word other : String}
  {concept : Concept} {e : Entry}

namespace Resolver

/-- The entry of a word that was new comes from the answer to a word with its normal form. -/
theorem Teaches.taught (hteaches : resolver.Teaches lexicon words other concept)
    (halike : normalizeWord other = normalizeWord word) (hnew : lexicon.get? word = none)
    (hget : (resolveWords resolver lexicon words).2.get? word = some e) :
    e.Answers (concept.lesson word) ∧ e.Taught word := by
  obtain ⟨d, hother, hanswers⟩ := hteaches.exists_answer
  rw [Lexicon.get?, halike] at hother
  cases hget.symm.trans hother
  have hkey : e.word = normalizeWord word := hanswers.word.trans halike
  refine ⟨⟨hkey, hanswers.wordType, hanswers.expression⟩, ?_⟩
  rcases (grows_resolveWords resolver lexicon words).added hget with hold | ⟨_, htaught⟩
  · cases hnew.symm.trans hold
  · exact { htaught with normal := hkey }

end Resolver

namespace Agent

variable {agent next : Agent} {added : List Goal} {text input : String}

/-- What becomes of an unknown word, given the goals that were opened and the agent as it goes on.
-/
inductive Fate (agent : Agent) (words : List String) (added : List Goal) (next : Agent)
    (word : String) : Prop where
  | explained {concept : Concept} {e : Entry}
      (hteaches : agent.resolver.Teaches agent.lexicon words word concept)
      (hget : next.lexicon.get? word = some e) (htaught : e.Taught word)
      (hanswers : e.Answers (concept.lesson word))
      (hquiet : ∀ g ∈ added, g.concept ≠ some (normalizeWord word)) :
      Fate agent words added next word
  /-- Its own answer was not accepted, but that to another word with its normal form. -/
  | shared {other : String} {concept : Concept} {e : Entry}
      (hunexplained : ∀ concept, ¬agent.resolver.Teaches agent.lexicon words word concept)
      (halike : normalizeWord other = normalizeWord word)
      (hteaches : agent.resolver.Teaches agent.lexicon words other concept)
      (hget : next.lexicon.get? word = some e) (htaught : e.Taught word)
      (hanswers : e.Answers (concept.lesson word))
      (hquiet : ∀ g ∈ added, g.concept ≠ some (normalizeWord word)) :
      Fate agent words added next word
  | asked (hunexplained : ∀ other concept, normalizeWord other = normalizeWord word →
        ¬agent.resolver.Teaches agent.lexicon words other concept)
      (hget : next.lexicon.get? word = none)
      (hasked : 0 < next.goals.asking (normalizeWord word)) : Fate agent words added next word

end Agent

end Apprentice
