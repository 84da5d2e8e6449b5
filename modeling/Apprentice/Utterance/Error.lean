import Apprentice.Lexicon.Meaning

/-!
# Refused utterances

Most utterances that make no sense are still answered. Refused are only teach instructions that
cannot be carried out, and statements of goals that are none.
-/

namespace Apprentice.Utterance

/-- Why an utterance is refused. -/
inductive UtteranceError where
  | malformedTeach (input : String)
  | notAGoal (input : String)
  | teach (cause : TeachError)
  deriving DecidableEq, Repr

def UtteranceError.diagnostic : UtteranceError → Diagnostic
  | malformedTeach input =>
    ⟨"lexagent::grammar::malformed_teach",
      some ("malformed teach instruction: \"" ++ input ++ "\""),
      some ("Use: teach <word_type> \"<word>\" as \"<expression>\", for example "
        ++ "teach property \"red\" as \"obj.color == 'red'\". "
        ++ "Start with `reteach` to replace an existing meaning.")⟩
  | notAGoal input =>
    ⟨"lexagent::grammar::not_a_goal",
      some ("not a goal: \"" ++ input ++ "\""),
      some ("Goals look like \"I have a red ball\", \"there is a blue box\", "
        ++ "\"A is bigger_than B\" or any question about the world.")⟩
  | teach cause => cause.diagnostic

def UtteranceError.message (e : UtteranceError) : String :=
  e.diagnostic.message.getD ""

end Apprentice.Utterance
