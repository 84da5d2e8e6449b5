import Apprentice.Lexicon.Curriculum
import Apprentice.Proofs.Lexicon.Taught

/-!
# Lines of a curriculum

What it means that a line says a type, a word and an expression: the line is cut at its first double
colon, and what follows at its first one again, so that there may be more of them in the expression.
Reading a line finds out what it says.
-/

namespace Apprentice.Curriculum

variable {text before after line : List Char} {wordType word expression : String}

/-! ### Double colons -/

/-- Whether a text is cut at a double colon that no other one starts in front of. -/
structure CutAtColons (text before after : List Char) : Prop where
  cut : text = before ++ ':' :: ':' :: after
  first : ¬[':', ':'] <:+: before ++ [':']

theorem splitAtColons?_of_cut (hcut : CutAtColons text before after) :
    splitAtColons? text = some (before, after) := by
  obtain ⟨rfl, hfirst⟩ := hcut
  induction before with
  | nil => rfl
  | cons c before ih =>
      rw [List.cons_append, List.infix_cons_iff, not_or] at hfirst
      have hapart : ∀ cs, c = ':' → before ++ ':' :: ':' :: after = ':' :: cs → False := by
        rintro cs rfl hcs
        -- the next character is a colon, whether it is in front of the cut or not
        cases before with
        | nil => exact hfirst.1 (List.prefix_refl _)
        | cons d before =>
            obtain rfl : d = ':' := (List.cons.inj hcs).1
            exact hfirst.1 ⟨before ++ [':'], rfl⟩
      rw [List.cons_append, splitAtColons?.eq_2 c _ hapart, ih hfirst.2]
      rfl

theorem cut_of_splitAtColons? (hsplit : splitAtColons? text = some (before, after)) :
    CutAtColons text before after := by
  fun_induction splitAtColons? text generalizing before with
  | case1 cs =>
      cases hsplit
      exact ⟨rfl, by decide⟩
  | case2 c cs hapart ih =>
      obtain ⟨⟨front, back⟩, hrest, heq⟩ := Option.map_eq_some_iff.mp hsplit
      cases heq
      obtain ⟨rfl, hfirst⟩ := ih hrest
      refine ⟨rfl, ?_⟩
      rw [List.cons_append, List.infix_cons_iff, not_or]
      refine ⟨?_, hfirst⟩
      rintro ⟨rest, hprefix⟩
      obtain ⟨rfl, hnext⟩ := List.cons.inj hprefix
      cases front with
      | nil => exact hapart _ rfl rfl
      | cons d front =>
          obtain rfl : ':' = d := (List.cons.inj hnext).1
          exact hapart _ rfl rfl
  | case3 => cases hsplit

/-! ### What a line says -/

def Counts (line : List Char) : Prop :=
  Text.trim line ≠ [] ∧ (Text.trim line).head? ≠ some '#'

instance (line : List Char) : Decidable (Counts line) :=
  inferInstanceAs (Decidable (_ ∧ _))

/-- Whether a line is written `type :: word :: expression`, with a word. -/
structure Written (line : List Char) (wordType word expression : String) : Prop where
  counts : Counts line
  parts : ∃ first rest second third, CutAtColons (Text.trim line) first rest ∧
    CutAtColons rest second third ∧ Text.trim second ≠ [] ∧
    wordType = String.ofList (Text.trim first) ∧ word = String.ofList (Text.trim second) ∧
    expression = String.ofList (Text.trim third)

theorem skips_eq (line : List Char) :
    ((Text.trim line).isEmpty || (Text.trim line).head? == some '#') = !decide (Counts line) := by
  rw [Bool.eq_iff_iff, Bool.not_eq_true', decide_eq_false_iff_not, Counts, not_and_or, not_not,
    not_not, Bool.or_eq_true, List.isEmpty_iff, beq_iff_eq]

theorem readLine?_of_not_counts (hskipped : ¬Counts line) (number : Nat) :
    readLine? number line = none := by
  rw [readLine?]
  dsimp only
  rw [skips_eq, decide_eq_false hskipped]
  rfl

theorem readLine?_of_written (hwritten : Written line wordType word expression) (number : Nat) :
    readLine? number line = some (.lesson number wordType word expression) := by
  obtain ⟨hcounts, first, rest, second, third, hfirst, hsecond, hword, rfl, rfl, rfl⟩ := hwritten
  rw [readLine?]
  dsimp only
  rw [skips_eq, decide_eq_true hcounts, splitAtColons?_of_cut hfirst]
  dsimp only [Option.bind_eq_bind, Option.bind_some]
  rw [splitAtColons?_of_cut hsecond]
  dsimp only [Option.bind_some]
  rw [Bool.eq_false_iff.mpr (mt List.isEmpty_iff.mp hword)]
  rfl

theorem Written.unique {wordType' word' expression' : String}
    (hwritten : Written line wordType word expression)
    (hother : Written line wordType' word' expression') :
    wordType = wordType' ∧ word = word' ∧ expression = expression' := by
  have hread := (readLine?_of_written hwritten 0).symm.trans (readLine?_of_written hother 0)
  rw [Option.some.injEq, CurriculumLine.lesson.injEq] at hread
  exact hread.2

theorem readLine?_of_malformed (hcounts : Counts line)
    (hform : ∀ wordType word expression, ¬Written line wordType word expression) (number : Nat) :
    readLine? number line = some (.malformed number (String.ofList (Text.trim line))) := by
  rw [readLine?]
  dsimp only
  rw [skips_eq, decide_eq_true hcounts]
  cases hfirst : splitAtColons? (Text.trim line) with
  | none => rfl
  | some parts =>
      obtain ⟨first, rest⟩ := parts
      dsimp only [Option.bind_eq_bind, Option.bind_some]
      cases hsecond : splitAtColons? rest with
      | none => rfl
      | some parts =>
          obtain ⟨second, third⟩ := parts
          by_cases hword : Text.trim second = []
          · dsimp only [Option.bind_some]
            rw [hword]
            rfl
          · exact absurd ⟨hcounts, first, rest, second, third, cut_of_splitAtColons? hfirst,
              cut_of_splitAtColons? hsecond, hword, rfl, rfl, rfl⟩ (hform _ _ _)

end Apprentice.Curriculum
