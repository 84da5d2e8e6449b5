import Apprentice.Proofs.Agent.UnknownWords
import Apprentice.Proofs.Goal.Understanding
import Apprentice.Proofs.Lexicon.NormalForm
import Apprentice.Proofs.Lexicon.Teaching
import Apprentice.Proofs.Text.Parts

/-!
# Unknown words that can be learned

Whether the agent can be taught a word that it asks for depends on the word alone. It is new to the
lexicon, or it would not be unknown. It is no word of the command grammar: it was none before it was
put into normal form once more, and composing a text never makes small Latin letters of anything
else. So all that may be in the way is a character inside the word that words are not made of. The
utterance is cut at blanks only, so there can be one; then the word cannot be taught in any way, and
the goal to understand it stays active for good.
-/

namespace Apprentice

open Text Utterance

/-! ### Small Latin letters -/

namespace Text

variable {cs : List Char}

theorem partsRefine_not_isLower : PartsRefine fun c => !c.isLower where
  fits := by
    decide +kernel
  syllable := by
    intro c hsyllable
    simp only [isSyllable, Bool.and_eq_true, decide_eq_true_eq] at hsyllable
    have hlarge : c.isLower = false := by
      rw [Bool.eq_false_iff]
      intro hlower
      have hascii : c.toNat < 0x80 := of_decide_eq_true (isAscii_of_isLower hlower)
      exact absurd (Nat.lt_of_le_of_lt hsyllable.1 hascii) (by decide)
    rw [hlarge]
    rfl

theorem canonical_eq_self_of_lower (hlower : ∀ c ∈ canonical cs, c.isLower = true) :
    canonical cs = cs := by
  have hcs : ∀ c ∈ cs, c.isLower = true := by
    have hparts := partsRefine_not_isLower.forall_parts_iff.mpr (by simpa using hlower)
    simpa using partsRefine_not_isLower.forall_parts_iff.mp fun d hd =>
      hparts d ((parts_canonical_perm cs).mem_iff.mpr hd)
  exact canonical_of_ascii fun c hc => isAscii_of_isLower (hcs c hc)

end Text

variable {text input surface word : String} {words : List String} {lexicon taught : Lexicon}
  {world : World} {p : Progress} {id : GoalId} {tick : Nat}

/-! ### Words of the command grammar -/

theorem isLower_of_structural (hword : structuralWords.contains word = true) :
    ∀ c ∈ word.toList, c.isLower = true := by
  have hall : structuralWords.all (fun word => word.toList.all Char.isLower) = true := by
    decide +kernel
  exact List.all_eq_true.mp (List.all_eq_true.mp hall word (List.contains_iff_mem.mp hword))

/-- A word that is one of the grammar in normal form was one before, if it was in normal form once
already. -/
theorem structural_of_normalizeWord (hsurface : ∀ c ∈ surface.toList, isBlank c = false)
    (hword : structuralWords.contains (normalizeWord (normalizeWord surface)) = true) :
    structuralWords.contains (normalizeWord surface) = true := by
  have htwice : (normalizeWord (normalizeWord surface)).toList =
      canonical (normalizeWord surface).toList := by
    rw [normalizeWord_of_unbroken (isBlank_of_mem_normalizeWord hsurface),
      normalizeWord_of_unbroken hsurface, lower_canonical_lower]
  have hlower := isLower_of_structural hword
  rw [htwice] at hlower
  have hsame : normalizeWord (normalizeWord surface) = normalizeWord surface := by
    rw [← String.toList_inj, htwice, canonical_eq_self_of_lower hlower]
  rw [hsame] at hword
  exact hword

namespace Utterance

/-! ### Tokens that are not known -/

theorem get?_of_unknown {previous : Option Token}
    (hrole : roleOf lexicon world previous surface word = .unknown) :
    lexicon.get? word = none ∧ structuralWords.contains word = false := by
  cases plays_of_roleOf hrole with
  | unknown hnew hunreserved => exact ⟨hnew, hunreserved⟩

theorem new_of_mem_unknownWords (hword : word ∈ unknownWords (tokenize text lexicon world)) :
    lexicon.get? word = none ∧ structuralWords.contains (normalizeWord word) = false := by
  obtain ⟨t, ht, hunknown, rfl⟩ := mem_unknownWords_iff.mp hword
  obtain ⟨typed, htyped, hnormalized, previous, hrole⟩ := exists_of_mem_tokensAfter t ht
  obtain ⟨hnew, hunreserved⟩ := get?_of_unknown (hrole.symm.trans hunknown)
  refine ⟨hnew, ?_⟩
  rw [Bool.eq_false_iff] at hunreserved ⊢
  rw [hnormalized] at hunreserved ⊢
  exact fun hstructural =>
    hunreserved (structural_of_normalizeWord (isBlank_of_mem_splitWords typed htyped) hstructural)

theorem new_of_read (hread : read text lexicon world = .ok (.unknown words input)) :
    ∀ word ∈ words, lexicon.get? word = none := by
  rw [unknownWords_of_read hread]
  exact fun word hword => (new_of_mem_unknownWords hword).1

end Utterance

/-! ### Teaching -/

def Predicate.sized : Predicate :=
  ⟨.unary, .binary .gt (.attr .obj .size) (.literal (.int 1)), "obj.size > 1"⟩

theorem Predicate.compile_sized : Predicate.compile .unary "obj.size > 1" = .ok .sized := by
  have htokens : Expr.tokenize "obj.size > 1" = .ok [⟨.ident "obj", 0⟩, ⟨.dot, 3⟩,
      ⟨.ident "size", 4⟩, ⟨.gt, 9⟩, ⟨.int 1, 11⟩] := by
    decide +kernel
  exact Predicate.compile_of_parse (n := 12) htokens rfl (by cbv) rfl (by decide +kernel)

def Entry.sized (key : String) : Entry :=
  ⟨key, .noun, "obj.size > 1", .predicate .sized⟩

/-- A new word that is valid and none of the grammar is learned. -/
theorem Lexicon.teach_sized (hvalid : isValidWord (normalizeWord word) = true)
    (hunreserved : structuralWords.contains (normalizeWord word) = false)
    (hnew : lexicon.find? (normalizeWord word) = none) :
    lexicon.teach word .noun "obj.size > 1" false =
      .ok (.learned, lexicon.insert (.sized (normalizeWord word))) := by
  have htrimmed : trimmed "obj.size > 1" = "obj.size > 1" := by decide +kernel
  have htaught : (Entry.sized (normalizeWord word)).Taught word :=
    ⟨rfl, hvalid, hunreserved, htrimmed,
      Meaning.compile_of_unary rfl htrimmed Predicate.compile_sized⟩
  exact teach_of_new htaught rfl htrimmed hnew

theorem Lexicon.teach_of_invalid (hinvalid : isValidWord (normalizeWord word) = false)
    (wordType : WordType) (expression : String) (replace : Bool) :
    lexicon.teach word wordType expression replace = .error (.invalidWord word) := by
  rw [teach]
  dsimp only
  rw [hinvalid]
  rfl

theorem Lexicon.find?_of_invalid {key : String} (hinvalid : isValidWord key = false)
    (lessons : List Lesson) : (ofLessons lessons).find? key = none := by
  refine find?_eq_none fun e he heq => ?_
  obtain ⟨lesson, -, htaught⟩ := taught_ofLessons he
  rw [← heq, htaught.valid] at hinvalid
  cases hinvalid

namespace Utterance

/-- An unknown word is learned if there are only characters of words in its normal form. In the same
utterance it is not unknown any more then, and a goal to understand it is achieved. Otherwise it is
refused, whatever it is taught as, and a goal to understand it stays active, whatever was taught. -/
theorem learned_or_refused
    (hread : read text lexicon world = .ok (.unknown words input) ∨
      readGoal text lexicon world = .ok (.unknown words input)) (hword : word ∈ words) :
    (isValidWord (normalizeWord word) = true →
      ∃ taught, lexicon.teach word .noun "obj.size > 1" false = .ok (.learned, taught) ∧
        (∀ left input, read text taught world = .ok (.unknown left input) ∨
          readGoal text taught world = .ok (.unknown left input) → word ∉ left) ∧
        ∀ (p : Progress) id tick,
          p.advanceGoal (.toUnderstand (normalizeWord word) id tick) taught = p.complete id) ∧
    (isValidWord (normalizeWord word) = false →
      (∀ wordType expression replace,
        lexicon.teach word wordType expression replace = .error (.invalidWord word)) ∧
      ∀ lessons (p : Progress) id tick, (p.advanceGoal (.toUnderstand (normalizeWord word) id tick)
        (Lexicon.ofLessons lessons)).goals = p.goals) := by
  have hwords : words = unknownWords (tokenize text lexicon world) :=
    hread.elim unknownWords_of_read unknownWords_of_readGoal
  have hsettled : IsSettled word := isSettled_of_mem_unknownWords word (hwords ▸ hword)
  obtain ⟨hnew, hunreserved⟩ := new_of_mem_unknownWords (hwords ▸ hword)
  constructor
  · intro hvalid
    have hknown := Lexicon.find?_insert_self lexicon (.sized (normalizeWord word))
    refine ⟨_, Lexicon.teach_sized hvalid hunreserved hnew, fun left input hagain hleft => ?_,
      fun p id tick => Progress.advanceGoal_of_known ?_⟩
    · rw [hagain.elim unknownWords_of_read unknownWords_of_readGoal] at hleft
      cases (new_of_mem_unknownWords hleft).1.symm.trans hknown
    · rw [Lexicon.contains, Lexicon.get?, hsettled]
      exact Option.isSome_of_eq_some hknown
  · intro hinvalid
    refine ⟨Lexicon.teach_of_invalid hinvalid, fun lessons p id tick => ?_⟩
    refine Progress.advanceGoal_of_unknown ?_
    rw [Lexicon.contains, Lexicon.get?, hsettled, Lexicon.find?_of_invalid hinvalid]
    rfl

/-- Two words of an utterance, of which one can be taught. -/
theorem learned_or_refused_box :
    let world := World.new 2 1
    read "foo.bar box" .empty world = .ok (.unknown ["foo.bar", "box"] "foo.bar box") ∧
      (∃ taught, Lexicon.empty.teach "box" .noun "obj.size > 1" false = .ok (.learned, taught) ∧
        ∀ (p : Progress) id tick,
          p.advanceGoal (.toUnderstand (normalizeWord "box") id tick) taught = p.complete id) ∧
      ∀ wordType expression replace, Lexicon.empty.teach "foo.bar" wordType expression replace =
        .error (.invalidWord "foo.bar") := by
  intro world
  have htrimmed : trimmed "foo.bar box" = "foo.bar box" := by decide +kernel
  have hwords : unknownWords (tokenize "foo.bar box" .empty world) = ["foo.bar", "box"] := by
    decide +kernel
  have hread := read_of_unknownWords (by decide +kernel) hwords (List.cons_ne_nil _ _)
  rw [htrimmed] at hread
  obtain ⟨hbox, -⟩ := learned_or_refused (.inl hread) (List.mem_cons_of_mem _ List.mem_cons_self)
  obtain ⟨-, hfoo⟩ := learned_or_refused (.inl hread) List.mem_cons_self
  obtain ⟨taught, hteach, -, hdone⟩ := hbox (by decide +kernel)
  exact ⟨hread, ⟨taught, hteach, hdone⟩, (hfoo (by decide +kernel)).1⟩

end Utterance

end Apprentice
