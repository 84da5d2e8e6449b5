import Apprentice.Proofs.Agent.LearnableWords
import Apprentice.Proofs.Lexicon.Growth

/-!
# An utterance when more words are known

A word that has been learned plays another part in an utterance than before. It never makes a word
of the command grammar of another word, nor takes that from one, and so the roles that depend on the
word before are what they were. Of the unknown words just those are left that are still not in the
lexicon.
-/

namespace Apprentice

variable {lexicon later : Lexicon} {world : World} {surface word text input : String}
  {previous next : Option Utterance.Token} {words : List Utterance.SpannedWord} {e : Entry}

theorem normalizeWord_of_structural (hword : structuralWords.contains word = true) :
    normalizeWord word = word := by
  have hall : structuralWords.all (fun word => normalizeWord word == word) = true := by
    decide +kernel
  exact eq_of_beq (List.all_eq_true.mp hall word (List.contains_iff_mem.mp hword))

/-- A word that came to be known is no word of the command grammar. -/
theorem Lexicon.Grows.unreserved (hgrows : lexicon.Grows later) (hnew : lexicon.get? word = none)
    (hget : later.get? word = some e) : structuralWords.contains word = false := by
  rcases hgrows.added hget with hold | ⟨other, htaught⟩
  · cases hnew.symm.trans hold
  · rw [Bool.eq_false_iff]
    intro hstructural
    have hkey : e.word = word :=
      (Lexicon.mem_of_get? hget).2.trans (normalizeWord_of_structural hstructural)
    cases htaught.unreserved.symm.trans (hkey ▸ hstructural)

namespace Utterance

/-- Whether two tokens, if there are any, are the same words of the command grammar. -/
def SameGrammar (previous next : Option Token) : Prop :=
  ∀ word, next.any (fun t => t.is word) = previous.any fun t => t.is word

theorem roleOf_of_sameGrammar (hsame : SameGrammar previous next) :
    roleOf lexicon world next surface word = roleOf lexicon world previous surface word := by
  have hfollows : (fun word => next.any fun t => t.is word) =
      fun word => previous.any fun t => t.is word := funext hsame
  rw [roleOf, roleOf, hfollows]

/-- A role stays what it is, unless the word has been learned; then it was none in the command
grammar. -/
theorem roleOf_of_grows (hgrows : lexicon.Grows later) (hsame : SameGrammar previous next) :
    roleOf later world next surface word = roleOf lexicon world previous surface word ∨
      (∃ e, later.get? word = some e ∧ roleOf later world next surface word = .entry e) ∧
        roleOf lexicon world previous surface word ≠ .structural := by
  rw [roleOf_of_sameGrammar hsame, roleOf, roleOf]
  dsimp only
  split
  next => exact .inl rfl
  next =>
    split
    next => exact .inl rfl
    next =>
      cases hnew : lexicon.get? word with
      | some e =>
          rw [show later.get? word = some e from hgrows.kept hnew]
          exact .inl rfl
      | none =>
          cases hget : later.get? word with
          | none => exact .inl rfl
          | some e =>
              refine .inr ⟨⟨e, rfl, rfl⟩, ?_⟩
              rw [hgrows.unreserved hnew hget, if_neg Bool.false_ne_true]
              dsimp only
              split
              next => exact Role.noConfusion
              next => split <;> exact Role.noConfusion

theorem sameGrammar_tokenOf (hgrows : lexicon.Grows later) (hsame : SameGrammar previous next)
    (world : World) (w : SpannedWord) : SameGrammar (some (tokenOf lexicon world previous w))
      (some (tokenOf later world next w)) := by
  intro word
  rw [Option.any_some, Option.any_some, Token.is, Token.is]
  have hrole := @roleOf_of_grows lexicon later world w.surface (normalizeWord w.surface) previous next
    hgrows hsame
  rcases hrole with hrole | ⟨⟨e, -, hentry⟩, hother⟩
  · rw [tokenOf, hrole]
    rfl
  · have hnow : (tokenOf later world next w).isStructural = false := by
      rw [tokenOf, Token.isStructural, hentry]
    have hbefore : (tokenOf lexicon world previous w).isStructural = false := by
      rw [tokenOf, Token.isStructural]
      split
      next hstructural => exact absurd hstructural hother
      next => rfl
    rw [hnow, hbefore]
    rfl

theorem role_eq_unknown_of_grows (hgrows : lexicon.Grows later)
    (hsame : SameGrammar previous next) :
    roleOf later world next surface word = .unknown ↔
      roleOf lexicon world previous surface word = .unknown ∧ later.get? word = none := by
  constructor
  · intro hunknown
    refine ⟨?_, (get?_of_unknown hunknown).1⟩
    rcases roleOf_of_grows hgrows hsame with hrole | ⟨⟨e, -, hentry⟩, -⟩
    · rw [← hrole, hunknown]
    · cases hunknown.symm.trans hentry
  · rintro ⟨hunknown, hnew⟩
    rcases roleOf_of_grows hgrows hsame with hrole | ⟨⟨e, hget, -⟩, -⟩
    · rw [hrole, hunknown]
    · cases hnew.symm.trans hget

theorem mem_unknownWords_tokensAfter (hgrows : lexicon.Grows later)
    (hsame : SameGrammar previous next) :
    word ∈ unknownWords (tokensAfter later world next words) ↔
      word ∈ unknownWords (tokensAfter lexicon world previous words) ∧ later.get? word = none := by
  induction words generalizing previous next with
  | nil =>
      exact ⟨fun hmem => absurd hmem List.not_mem_nil, fun hmem => absurd hmem.1 List.not_mem_nil⟩
  | cons w words ih =>
      have hrest := ih (sameGrammar_tokenOf hgrows hsame world w)
      have hfirst : (tokenOf later world next w).role = .unknown ↔
          (tokenOf lexicon world previous w).role = .unknown ∧
            later.get? (normalizeWord w.surface) = none := role_eq_unknown_of_grows hgrows hsame
      rw [mem_unknownWords_iff, mem_unknownWords_iff] at hrest ⊢
      rw [tokensAfter_cons, tokensAfter_cons, List.exists_mem_cons_iff, List.exists_mem_cons_iff,
        hrest, hfirst, or_and_right]
      refine or_congr ⟨?_, ?_⟩ Iff.rfl
      · rintro ⟨⟨hunknown, hnew⟩, rfl⟩
        exact ⟨⟨hunknown, rfl⟩, hnew⟩
      · rintro ⟨⟨hunknown, rfl⟩, hnew⟩
        exact ⟨⟨hunknown, hnew⟩, rfl⟩

theorem mem_unknownWords_of_grows (hgrows : lexicon.Grows later) :
    word ∈ unknownWords (tokenize text later world) ↔
      word ∈ unknownWords (tokenize text lexicon world) ∧ later.get? word = none :=
  mem_unknownWords_tokensAfter hgrows fun _ => rfl

/-- What an utterance with unknown words is taken for, when more words are known: an action, if all
of them are among these; otherwise the rest of them is unknown. -/
theorem read_of_grows {unknown : List String} (hgrows : lexicon.Grows later)
    (hread : read text lexicon world = .ok (.unknown unknown input)) :
    (∃ action, read text later world = .ok (.act action) ∧
      ∀ word ∈ unknown, (later.get? word).isSome = true) ∨
    ∃ left, read text later world = .ok (.unknown left input) ∧
      ∀ word, word ∈ left ↔ word ∈ unknown ∧ later.get? word = none := by
  have hunknown := unknownWords_of_read hread
  rw [read] at hread ⊢
  split at hread
  next request hteach => cases request <;> cases hread
  next hteach =>
    have hleft : ∀ word, word ∈ unknownWords (tokenize text later world) ↔
        word ∈ unknown ∧ later.get? word = none := by
      intro word
      rw [hunknown]
      exact mem_unknownWords_of_grows hgrows
    have hinput : input = Text.trimmed text := by
      dsimp only at hread
      split at hread
      next => cases hread
      next =>
        cases hread
        rfl
    rw [hinput]
    dsimp only
    split
    next hnone =>
      refine .inl ⟨_, rfl, fun word hword => ?_⟩
      rw [Option.isSome_iff_ne_none]
      intro hnew
      exact absurd (hnone ▸ (hleft word).mpr ⟨hword, hnew⟩) List.not_mem_nil
    next => exact .inr ⟨_, rfl, hleft⟩

end Utterance

end Apprentice
