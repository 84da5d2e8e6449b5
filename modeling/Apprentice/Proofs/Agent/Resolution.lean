import Apprentice.Proofs.Utterance.Grown

/-!
# Words that a resolver explains

The resolver is asked about one word after the other, and what it answers is taught at once. The
lexicon only grows by that, and all that comes to it are meanings of the words whose answers were
accepted. Two of the words can have the same normal form. Then the first answer that is accepted
gives both of them a meaning, and another answer to the second word is refused.
-/

namespace Apprentice

open Utterance

variable {resolver : Resolver} {lexicon last next : Lexicon}
  {words learned before after : List String}
  {word key : String} {concept : Concept} {e : Entry}

def Concept.lesson (concept : Concept) (word : String) : Lesson :=
  ⟨word, concept.wordType, concept.expression, false⟩

/-- Whether a word is learned when it is offered to a resolver: there is an answer, and it can be
taught. -/
def Resolver.Explains (resolver : Resolver) (lexicon : Lexicon) (word : String)
    (concept : Concept) : Prop :=
  resolver.resolve word = .ok concept ∧
    ∃ result, lexicon.teach word concept.wordType concept.expression false = .ok result

/-- What becomes of a word that is offered to a resolver. -/
inductive Resolver.Offers (resolver : Resolver) (lexicon : Lexicon) (word : String) :
    List String → Lexicon → Prop where
  | taught {concept : Concept} {next : Lexicon} (hexplains : resolver.Explains lexicon word concept)
      (hgrows : lexicon.Grows next)
      (hanswer : ∃ e, next.get? word = some e ∧ e.Answers (concept.lesson word))
      (hother : ∀ key, key ≠ normalizeWord word → next.find? key = lexicon.find? key) :
      Offers resolver lexicon word [word] next
  | refused (hnot : ∀ concept, ¬resolver.Explains lexicon word concept) :
      Offers resolver lexicon word [] lexicon

theorem offers_resolveWords (resolver : Resolver) (lexicon : Lexicon) (word : String) :
    resolver.Offers lexicon word (resolveWords resolver lexicon [word]).1
      (resolveWords resolver lexicon [word]).2 := by
  rw [resolveWords]
  cases hresolve : resolver.resolve word with
  | error cause =>
      refine .refused fun concept hexplains => ?_
      cases hresolve.symm.trans hexplains.1
  | ok concept =>
      dsimp only [Except.toOption, bind, Option.bind]
      cases hteach : lexicon.teach word concept.wordType concept.expression false with
      | error cause =>
          refine .refused fun other hexplains => ?_
          obtain ⟨hother, result, hresult⟩ := hexplains
          cases hresolve.symm.trans hother
          cases hteach.symm.trans hresult
      | ok result =>
          obtain ⟨outcome, next⟩ := result
          have hlearns := Lexicon.learns_of_teach (concept.lesson word) hteach
          exact .taught ⟨hresolve, (outcome, next), hteach⟩ (Lexicon.grows_of_teach hteach)
            hlearns.exists_answer fun key hkey => hlearns.find?_of_ne hkey

theorem resolveWords_append (resolver : Resolver) (lexicon : Lexicon) (before after : List String) :
    resolveWords resolver lexicon (before ++ after) =
      ((resolveWords resolver lexicon before).1 ++
        (resolveWords resolver (resolveWords resolver lexicon before).2 after).1,
        (resolveWords resolver (resolveWords resolver lexicon before).2 after).2) := by
  induction before generalizing lexicon with
  | nil => rfl
  | cons word before ih =>
      rw [List.cons_append, resolveWords, resolveWords]
      split
      next taught =>
        rw [ih]
        rfl
      next => exact ih lexicon

theorem resolveWords_cons (resolver : Resolver) (lexicon : Lexicon) (word : String)
    (words : List String) : ∃ learned next, resolver.Offers lexicon word learned next ∧
      resolveWords resolver lexicon [word] = (learned, next) ∧
      resolveWords resolver lexicon (word :: words) =
        (learned ++ (resolveWords resolver next words).1, (resolveWords resolver next words).2) :=
  ⟨_, _, offers_resolveWords resolver lexicon word, rfl,
    resolveWords_append resolver lexicon [word] words⟩

theorem Resolver.Offers.grows (hoffers : resolver.Offers lexicon word learned next) :
    lexicon.Grows next := by
  cases hoffers with
  | taught _ hgrows => exact hgrows
  | refused => exact .refl lexicon

theorem grows_resolveWords (resolver : Resolver) (lexicon : Lexicon) (words : List String) :
    lexicon.Grows (resolveWords resolver lexicon words).2 := by
  induction words generalizing lexicon with
  | nil => exact .refl lexicon
  | cons word words ih =>
      obtain ⟨learned, next, hoffers, -, hresolve⟩ := resolveWords_cons resolver lexicon word words
      rw [hresolve]
      exact hoffers.grows.trans (ih next)

theorem resolveWords_of_nil (hnone : (resolveWords resolver lexicon words).1 = []) :
    (resolveWords resolver lexicon words).2 = lexicon := by
  induction words generalizing lexicon with
  | nil => rfl
  | cons word words ih =>
      obtain ⟨learned, next, hoffers, -, hresolve⟩ := resolveWords_cons resolver lexicon word words
      rw [hresolve] at hnone ⊢
      obtain ⟨hfirst, hrest⟩ := List.append_eq_nil_iff.mp hnone
      cases hoffers with
      | taught => cases hfirst
      | refused => exact ih hrest

theorem exists_of_find?_resolveWords
    (hfind : (resolveWords resolver lexicon words).2.find? key = some e)
    (hnew : lexicon.find? key = none) :
    ∃ word ∈ (resolveWords resolver lexicon words).1, normalizeWord word = key := by
  induction words generalizing lexicon with
  | nil => cases hnew.symm.trans hfind
  | cons word words ih =>
      obtain ⟨learned, next, hoffers, -, hresolve⟩ := resolveWords_cons resolver lexicon word words
      rw [hresolve] at hfind ⊢
      cases hnext : next.find? key with
      | none =>
          obtain ⟨other, hother, hkey⟩ := ih hfind hnext
          exact ⟨other, List.mem_append_right learned hother, hkey⟩
      | some e =>
          cases hoffers with
          | refused => cases hnew.symm.trans hnext
          | taught _ _ _ hother =>
              refine ⟨word, List.mem_cons_self, ?_⟩
              by_contra hkey
              rw [hother key (Ne.symm hkey), hnew] at hnext
              cases hnext

/-- Whether a word is learned when words are offered to a resolver one after the other: when it is
its turn, there is an answer, and it can be taught. -/
def Resolver.Teaches (resolver : Resolver) (lexicon : Lexicon) (words : List String) (word : String)
    (concept : Concept) : Prop :=
  ∃ before after, words = before ++ word :: after ∧
    resolver.Explains (resolveWords resolver lexicon before).2 word concept

theorem Resolver.Teaches.mem (hteaches : resolver.Teaches lexicon words word concept) :
    word ∈ words := by
  obtain ⟨before, after, rfl, -⟩ := hteaches
  exact List.mem_append_right before List.mem_cons_self

/-- The words that were taught are those that had their turn with success. -/
theorem mem_resolveWords_iff : word ∈ (resolveWords resolver lexicon words).1 ↔
    ∃ concept, resolver.Teaches lexicon words word concept := by
  constructor
  · intro hmem
    induction words generalizing lexicon with
    | nil => exact absurd hmem List.not_mem_nil
    | cons first words ih =>
        obtain ⟨learned, next, hoffers, hfirst, hresolve⟩ :=
          resolveWords_cons resolver lexicon first words
        rw [hresolve] at hmem
        rcases List.mem_append.mp hmem with hnow | hlater
        · cases hoffers with
          | refused => exact absurd hnow List.not_mem_nil
          | taught hexplains =>
              obtain rfl := List.mem_singleton.mp hnow
              exact ⟨_, [], words, rfl, hexplains⟩
        · obtain ⟨concept, before, after, rfl, hexplains⟩ := ih hlater
          refine ⟨concept, first :: before, after, rfl, ?_⟩
          rw [← List.singleton_append, resolveWords_append, hfirst]
          exact hexplains
  · rintro ⟨concept, before, after, rfl, hexplains⟩
    obtain ⟨learned, next, hoffers, -, hresolve⟩ :=
      resolveWords_cons resolver (resolveWords resolver lexicon before).2 word after
    rw [resolveWords_append, hresolve]
    cases hoffers with
    | refused hnot => exact absurd hexplains (hnot concept)
    | taught => exact List.mem_append_right _ List.mem_cons_self

theorem Resolver.Teaches.exists_answer (hteaches : resolver.Teaches lexicon words word concept) :
    ∃ e, (resolveWords resolver lexicon words).2.get? word = some e ∧
      e.Answers (concept.lesson word) := by
  obtain ⟨before, after, rfl, hexplains⟩ := hteaches
  obtain ⟨learned, next, hoffers, -, hresolve⟩ :=
    resolveWords_cons resolver (resolveWords resolver lexicon before).2 word after
  rw [resolveWords_append, hresolve]
  cases hoffers with
  | refused hnot => exact absurd hexplains (hnot concept)
  | taught hother _ hanswer =>
      cases hexplains.1.symm.trans hother.1
      obtain ⟨e, hget, hanswers⟩ := hanswer
      exact ⟨e, (grows_resolveWords resolver next after).kept hget, hanswers⟩

/-! ### Utterances with unknown words -/

namespace Agent

variable {agent : Agent} {text input : String}

/-- What is left to do with an utterance when more words are known: to carry it out, if all of its
unknown words are among these, and to ask about the others otherwise. -/
inductive Resumes (taught : Agent) (text : String) (words : List String) :
    Response → Agent → Prop where
  | acts {response : Response} {action : Action} (hhear : taught.hear text = .ok (.act action))
      (hall : ∀ word ∈ words, (taught.lexicon.get? word).isSome = true)
      (hopened : response.opened = []) : Resumes taught text words response (taught.act action).2
  | asks {response : Response} {left : List String}
      (hleft : ∀ word, word ∈ left ↔ word ∈ words ∧ taught.lexicon.get? word = none)
      (hopened : response.opened = (taught.ask left).1.opened) :
      Resumes taught text words response (taught.ask left).2

theorem resumes_reply {learned : List String} (hhear : agent.hear text = .ok (.unknown words input))
    (hgrows : agent.lexicon.Grows lexicon) :
    let taught := { agent with lexicon := lexicon }
    let (response, next) := taught.reply (taught.hear text)
    let reply := { response with learned := learned ++ response.learned }
    reply.learned = learned ∧ taught.Resumes text words reply next := by
  intro taught
  rcases read_of_grows hgrows hhear with ⟨action, hagain, hall⟩ | ⟨left, hagain, hleft⟩
  · rw [show taught.hear text = .ok (.act action) from hagain]
    exact ⟨List.append_nil learned, .acts hagain hall rfl⟩
  · rw [show taught.hear text = .ok (.unknown left input) from hagain]
    exact ⟨List.append_nil learned, .asks hleft rfl⟩

theorem process_of_unknown (hhear : agent.hear text = .ok (.unknown words input)) :
    (agent.process text).1.learned = (resolveWords agent.resolver agent.lexicon words).1 ∧
      Resumes { agent with lexicon := (resolveWords agent.resolver agent.lexicon words).2 } text
        words (agent.process text).1 (agent.process text).2 := by
  have hgrows := grows_resolveWords agent.resolver agent.lexicon words
  have hsilent := @resolveWords_of_nil agent.resolver agent.lexicon words
  rw [process, hhear]
  dsimp only
  generalize resolveWords agent.resolver agent.lexicon words = resolved at *
  obtain ⟨learned, lexicon⟩ := resolved
  dsimp only at *
  split
  next hnone =>
    obtain rfl : learned = [] := List.isEmpty_iff.mp hnone
    obtain rfl := hsilent rfl
    refine ⟨rfl, .asks (fun word => ⟨fun hword => ⟨hword, ?_⟩, And.left⟩) rfl⟩
    exact new_of_read hhear word hword
  next => exact resumes_reply hhear hgrows

end Agent

end Apprentice
