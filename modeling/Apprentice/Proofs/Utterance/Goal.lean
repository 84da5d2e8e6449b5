import Apprentice.Proofs.Utterance.Shapes
import Apprentice.Proofs.Utterance.Words

/-!
# What a goal is read as

The statement of a goal to have something is read as a goal of the agent for a description, and the
words of the description are words of the statement.
-/

namespace Apprentice.Utterance

def Material.unbroken : Material :=
  { Material.any with term := fun term => ∀ c ∈ term.word.toList, Text.isBlank c = false }

/-- A goal to have something is one of the agent, for words without blanks. -/
theorem readGoal_possession {text : String} {lexicon : Lexicon} {world : World}
    {request : GoalRequest} (hread : readGoal text lexicon world = .ok (.goal request))
    (hkind : request.kind = .achievePossession) :
    ∃ d, request.condition = .verifyPossession .agent d ∧
      ∀ conjunction ∈ d.alternatives, ∀ term ∈ conjunction,
        ∀ c ∈ term.word.toList, Text.isBlank c = false := by
  have hgive : ∀ t ∈ tokenize text lexicon world, t.Gives Material.unbroken := fun t ht =>
    { t.gives_any with term := fun _ _ _ => isBlank_of_mem_tokenize t ht }
  have hcondition := readGoal_isCondition hgive hread
  rw [hkind] at hcondition
  generalize request.condition = condition at hcondition
  cases hcondition with
  | possession hd => exact ⟨_, rfl, hd⟩

end Apprentice.Utterance
