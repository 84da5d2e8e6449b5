import Apprentice.Proofs.Utterance.Shapes
import Mathlib.Algebra.Ring.Parity
import Mathlib.Data.List.DropRight
import Mathlib.Data.Option.NAry

/-!
# Alternatives

A description is read word by word from the left, and a negation waits for the word that it is
about. It does not wait inside its own alternative only, as an `or` leaves it waiting. Main
statement: `or` joins what is read in front of it and what is read behind it, unless a negation is
left over in front of it. Such a front is no description by itself, and the negation counts as if it
stood behind the `or`.
-/

namespace Apprentice

def Description.or (d e : Description) : Description :=
  ⟨d.alternatives ++ e.alternatives⟩

theorem Description.ofAlternatives_append (before after : List (List Term)) :
    ofAlternatives (before ++ after) = (ofAlternatives before).or (ofAlternatives after) := by
  rw [ofAlternatives, List.filter_append]
  rfl

namespace Utterance

open List

variable {before tokens : List Token} {t n o : Token} {p : Predicate} {negated : Bool}
  {terms : List Term}

/-! ### One token -/

theorem readAlternatives_term (ht : t.meaning? = some (.predicate p)) (negated : Bool)
    (terms : List Term) (tokens : List Token) :
    readAlternatives negated terms (t :: tokens) =
      readAlternatives false (terms ++ [⟨t.normalized, negated, p⟩]) tokens := by
  rw [readAlternatives, ht]

theorem readAlternatives_not (hn : n.meaning? = some (.operator .not)) (negated : Bool)
    (terms : List Term) (tokens : List Token) :
    readAlternatives negated terms (n :: tokens) = readAlternatives (!negated) terms tokens := by
  rw [readAlternatives, hn]

theorem readAlternatives_and (ht : t.meaning? = some (.operator .and)) (negated : Bool)
    (terms : List Term) (tokens : List Token) :
    readAlternatives negated terms (t :: tokens) = readAlternatives negated terms tokens := by
  rw [readAlternatives, ht]

theorem readAlternatives_or (ho : o.meaning? = some (.operator .or)) (negated : Bool)
    (terms : List Term) (tokens : List Token) :
    readAlternatives negated terms (o :: tokens) =
      if terms.isEmpty then none
      else (readAlternatives negated [] tokens).map fun alternatives => terms :: alternatives := by
  rw [readAlternatives, ho]

theorem isArticle_of_meaning? (ht : t.meaning?.isSome) : t.isArticle = false := by
  cases hrole : t.role with
  | entry e => rw [Token.isArticle, Token.isAnyOf, Token.isStructural, hrole, Bool.false_and]
  | _ => simp [Token.meaning?, Token.entry?, hrole] at ht

theorem content_cons (ht : t.meaning?.isSome) (tokens : List Token) :
    content (t :: tokens) = t :: content tokens := by
  rw [content, filter_cons, isArticle_of_meaning? ht]
  rfl

theorem content_append (before after : List Token) :
    content (before ++ after) = content before ++ content after :=
  filter_append before after

/-! ### Negations that are left over -/

namespace Token

def isTerm (t : Token) : Bool :=
  match t.meaning? with
  | some (.predicate _) => true
  | _ => false

def isNegation (t : Token) : Bool :=
  match t.meaning? with
  | some (.operator .not) => true
  | _ => false

end Token

/-- The number of negations behind the last word. -/
def openNegations (tokens : List Token) : Nat :=
  (tokens.rtakeWhile fun t => !t.isTerm).countP Token.isNegation

/-- A negation is left over. Two of them cancel each other. -/
def Dangling (tokens : List Token) : Prop :=
  Odd (openNegations tokens)

instance (tokens : List Token) : Decidable (Dangling tokens) :=
  inferInstanceAs (Decidable (Odd _))

/-- Whether a negation waits behind the tokens, given whether one waits in front of them. -/
def waits (negated : Bool) (tokens : List Token) : Bool :=
  tokens.foldl (fun waiting t => !t.isTerm && waiting != t.isNegation) negated

theorem waits_append (negated : Bool) (before after : List Token) :
    waits negated (before ++ after) = waits (waits negated before) after :=
  foldl_append

theorem waits_term (ht : t.meaning? = some (.predicate p)) (negated : Bool) (tokens : List Token) :
    waits negated (t :: tokens) = waits false tokens := by
  rw [waits, foldl_cons, Token.isTerm, ht]
  rfl

theorem waits_not (hn : n.meaning? = some (.operator .not)) (negated : Bool)
    (tokens : List Token) : waits negated (n :: tokens) = waits (!negated) tokens := by
  rw [waits, foldl_cons, Token.isTerm, Token.isNegation, hn]
  simp [waits]

theorem waits_other (hterm : t.isTerm = false) (hnegation : t.isNegation = false) (negated : Bool)
    (tokens : List Token) : waits negated (t :: tokens) = waits negated tokens := by
  rw [waits, foldl_cons, hterm, hnegation, Bool.not_false, Bool.true_and, Bool.bne_false, waits]

theorem waits_connective {connective : Connective}
    (ht : t.meaning? = some (.operator connective)) (hconnective : connective ≠ .not)
    (negated : Bool) (tokens : List Token) :
    waits negated (t :: tokens) = waits negated tokens := by
  refine waits_other ?_ ?_ negated tokens
  · rw [Token.isTerm, ht]
  · rw [Token.isNegation, ht]
    cases connective with
    | not => exact absurd rfl hconnective
    | and => rfl
    | or => rfl

theorem waits_false_iff (tokens : List Token) : waits false tokens = true ↔ Dangling tokens := by
  induction tokens using List.reverseRecOn with
  | nil => simp [waits, Dangling, openNegations]
  | append_singleton tokens t ih =>
      rw [waits_append, Dangling, openNegations, rtakeWhile_concat]
      cases hterm : t.isTerm with
      | true => simp [waits, hterm]
      | false =>
          rw [Dangling, openNegations] at ih
          cases hnegation : t.isNegation <;>
            simp [waits, hterm, hnegation, ← ih, Nat.odd_add_one]

/-- Articles are no negations and take none up. -/
theorem waits_content (negated : Bool) (tokens : List Token) :
    waits negated (content tokens) = waits negated tokens := by
  induction tokens generalizing negated with
  | nil => rfl
  | cons t tokens ih =>
      cases harticle : t.isArticle with
      | true =>
          have hmeaning : t.meaning? = none := by
            by_contra hsome
            rw [isArticle_of_meaning? (Option.isSome_iff_ne_none.mpr hsome)] at harticle
            exact absurd harticle Bool.false_ne_true
          rw [waits_other (by rw [Token.isTerm, hmeaning]) (by rw [Token.isNegation, hmeaning]),
            ← ih, content, filter_cons, harticle]
          rfl
      | false =>
          rw [content, filter_cons, harticle]
          exact ih _

/-! ### The law -/

theorem readAlternatives_of_waits (hwaits : waits negated tokens = true) :
    readAlternatives negated terms tokens = none := by
  fun_induction readAlternatives negated terms tokens with
  | case1 => rfl
  | case2 negated terms hend =>
      rw [Bool.or_eq_true_iff, not_or] at hend
      exact absurd hwaits hend.1
  | case3 negated terms t tokens p ht ih => exact ih (waits_term ht negated tokens ▸ hwaits)
  | case4 negated terms t tokens ht ih => exact ih (waits_not ht negated tokens ▸ hwaits)
  | case5 negated terms t tokens ht ih =>
      exact ih (waits_connective ht Connective.noConfusion negated tokens ▸ hwaits)
  | case6 => rfl
  | case7 negated terms t tokens ht _ ih =>
      rw [ih (waits_connective ht Connective.noConfusion negated tokens ▸ hwaits), Option.map_none]
  | case8 => rfl

/-- The induction is along the front, with the terms of the alternative that is being read. -/
theorem readAlternatives_append_or (ho : o.meaning? = some (.operator .or))
    (hwaits : waits negated before = false) (after : List Token) :
    readAlternatives negated terms (before ++ o :: after) =
      Option.map₂ (· ++ ·) (readAlternatives negated terms before)
        (readAlternatives false [] after) := by
  fun_induction readAlternatives negated terms before with
  | case1 negated terms hend =>
      obtain rfl : negated = false := hwaits
      rw [Bool.false_or] at hend
      rw [nil_append, readAlternatives_or ho, if_pos hend, Option.map₂_none_left]
  | case2 negated terms hend =>
      obtain rfl : negated = false := hwaits
      rw [Bool.false_or] at hend
      rw [nil_append, readAlternatives_or ho, if_neg hend]
      cases readAlternatives false [] after <;> rfl
  | case3 negated terms t before p ht ih =>
      rw [cons_append, readAlternatives_term ht, ih (waits_term ht negated before ▸ hwaits)]
  | case4 negated terms t before ht ih =>
      rw [cons_append, readAlternatives_not ht, ih (waits_not ht negated before ▸ hwaits)]
  | case5 negated terms t before ht ih =>
      rw [cons_append, readAlternatives_and ht,
        ih (waits_connective ht Connective.noConfusion negated before ▸ hwaits)]
  | case6 negated terms t before ht hempty =>
      rw [cons_append, readAlternatives_or ht, if_pos hempty, Option.map₂_none_left]
  | case7 negated terms t before ht hempty ih =>
      rw [cons_append, readAlternatives_or ht, if_neg hempty,
        ih (waits_connective ht Connective.noConfusion negated before ▸ hwaits), Option.map_map₂,
        Option.map₂_map_left]
      rfl
  | case8 negated terms t before hterm hnot hand hor =>
      rw [cons_append, readAlternatives, Option.map₂_none_left]
      split <;> simp_all

theorem description?_of_dangling (hdangling : Dangling tokens) : description? tokens = none := by
  have hwaits : waits false (content tokens) = true := by
    rw [waits_content, waits_false_iff]
    exact hdangling
  rw [description?, readAlternatives_of_waits hwaits, Option.map_none]

theorem description?_of_not_dangling (ho : o.meaning? = some (.operator .or))
    (hdangling : ¬Dangling before) (after : List Token) :
    description? (before ++ o :: after) =
      Option.map₂ .or (description? before) (description? after) := by
  have hwaits : waits false (content before) = false := by
    rw [waits_content, ← Bool.not_eq_true, waits_false_iff]
    exact hdangling
  rw [description?, content_append, content_cons (by rw [ho]; rfl),
    readAlternatives_append_or ho hwaits, Option.map_map₂, description?, description?,
    Option.map₂_map_left, Option.map₂_map_right]
  simp only [Description.ofAlternatives_append]

theorem readAlternatives_across (ho : o.meaning? = some (.operator .or))
    (hn : n.meaning? = some (.operator .not)) (negated : Bool) (terms : List Term)
    (before after : List Token) :
    readAlternatives negated terms (before ++ n :: o :: n :: after) =
      readAlternatives negated terms (before ++ o :: after) := by
  induction before generalizing negated terms with
  | nil =>
      rw [nil_append, nil_append, readAlternatives_not hn, readAlternatives_or ho,
        readAlternatives_or ho, readAlternatives_not hn, Bool.not_not]
  | cons t before ih => simp only [cons_append, readAlternatives, ih]

theorem description?_across (ho : o.meaning? = some (.operator .or))
    (hn : n.meaning? = some (.operator .not)) (before after : List Token) :
    description? (before ++ n :: o :: n :: after) = description? (before ++ o :: after) := by
  have hor : o.meaning?.isSome := by rw [ho]; rfl
  have hnot : n.meaning?.isSome := by rw [hn]; rfl
  rw [description?, description?, content_append, content_append, content_cons hnot,
    content_cons hor, content_cons hnot, readAlternatives_across ho hn, content_cons hor]

/-- What stands in front of `or` and what stands behind it are descriptions of their own, unless a
negation is left over in front. Then the front is no description, and the negation is passed on. -/
theorem description?_append_or (ho : o.meaning? = some (.operator .or))
    (before after : List Token) :
    (¬Dangling before → description? (before ++ o :: after) =
      Option.map₂ .or (description? before) (description? after)) ∧
    (Dangling before → description? before = none ∧
      ∀ n : Token, n.meaning? = some (.operator .not) →
        description? (before ++ o :: after) =
          Option.map₂ .or (description? (before ++ [n])) (description? (n :: after))) := by
  refine ⟨fun hdangling => description?_of_not_dangling ho hdangling after,
    fun hdangling => ⟨description?_of_dangling hdangling, fun n hn => ?_⟩⟩
  have hclosed : ¬Dangling (before ++ [n]) := by
    rw [← waits_false_iff] at hdangling ⊢
    rw [waits_append, hdangling, waits_not hn]
    exact Bool.false_ne_true
  rw [← description?_of_not_dangling ho hclosed, append_assoc, singleton_append,
    description?_across ho hn]

/-- In `red not or box` the negation of the first alternative gets to the second one. -/
theorem description?_append_or_passed :
    let word (text : String) (wordType : WordType) (expression : String) (meaning : Meaning) :
        Token :=
      ⟨text, text, ⟨0, 0⟩, .entry ⟨text, wordType, expression, meaning⟩⟩
    let isRed : Predicate :=
      ⟨.unary, .binary .eq (.attr .obj .color) (.literal (.str "red")), "obj.color == 'red'"⟩
    let isBox : Predicate :=
      ⟨.unary, .binary .eq (.attr .obj .shape) (.literal (.str "box")), "obj.shape == 'box'"⟩
    let red := word "red" .property isRed.source (.predicate isRed)
    let box := word "box" .noun isBox.source (.predicate isBox)
    let not := word "not" .operator "not" (.operator .not)
    let or := word "or" .operator "or" (.operator .or)
    or.meaning? = some (.operator .or) ∧ Dangling [red, not] ∧ description? [red, not] = none ∧
      description? [red, not, or, box] =
        some ⟨[[⟨"red", false, isRed⟩], [⟨"box", true, isBox⟩]]⟩ := by
  intro word isRed isBox red box not or
  have hdangling : Dangling [red, not] := by decide
  obtain ⟨hnone, hpassed⟩ := (description?_append_or (o := or) rfl [red, not] [box]).2 hdangling
  exact ⟨rfl, hdangling, hnone, hpassed not rfl⟩

end Utterance

end Apprentice
