import Apprentice.Proofs.Lexicon.Teaching

/-!
# Lexicons that grow

A lesson that replaces nothing puts an entry under a new word or leaves the lexicon as it is. After
any number of such lessons all entries are still there, and what has come to them was taught. From
then on a lesson that was accepted is known, and one that was refused is refused again, though not
always for the same reason: the word may have been given another meaning in between.
-/

namespace Apprentice.Lexicon

variable {lexicon later last next : Lexicon} {word key expression : String} {wordType : WordType}
  {outcome : TeachOutcome} {cause : TeachError} {e : Entry}

/-- How a lexicon is related to one that lessons which replace nothing can make of it. -/
structure Grows (lexicon later : Lexicon) : Prop where
  kept : ∀ {key e}, lexicon.find? key = some e → later.find? key = some e
  added : ∀ {key e}, later.find? key = some e → lexicon.find? key = some e ∨ ∃ word, e.Taught word

namespace Grows

theorem refl (lexicon : Lexicon) : lexicon.Grows lexicon :=
  ⟨id, .inl⟩

theorem trans (hfirst : lexicon.Grows later) (hthen : later.Grows last) : lexicon.Grows last where
  kept hfind := hthen.kept (hfirst.kept hfind)
  added hfind := (hthen.added hfind).elim hfirst.added .inr

theorem mem (hgrows : lexicon.Grows later) (he : e ∈ lexicon.entries) : e ∈ later.entries :=
  List.mem_of_find?_eq_some (hgrows.kept (find?_of_mem he))

theorem find?_eq_none (hgrows : lexicon.Grows later) (hnew : later.find? key = none) :
    lexicon.find? key = none := by
  cases hfind : lexicon.find? key with
  | none => rfl
  | some e =>
      rw [hgrows.kept hfind] at hnew
      cases hnew

theorem contains (hgrows : lexicon.Grows later) (hknown : lexicon.contains word = true) :
    later.contains word = true := by
  obtain ⟨e, hfind⟩ := Option.isSome_iff_exists.mp hknown
  exact Option.isSome_of_eq_some (hgrows.kept hfind)

end Grows

/-! ### Lessons that replace nothing -/

theorem teach_of_other (hfind : lexicon.get? word = some e)
    (hother : ¬e.Answers ⟨word, wordType, expression, false⟩) :
    ∃ cause, lexicon.teach word wordType expression false = .error cause := by
  have hword : e.word = normalizeWord word := (mem_of_get? hfind).2
  have hdiffers : ¬(e.wordType = wordType ∧ e.expression = Text.trimmed expression) :=
    fun hsame => hother ⟨hword, hsame.1, hsame.2⟩
  rw [get?] at hfind
  rw [teach]
  dsimp only
  split
  next => exact ⟨_, rfl⟩
  next =>
    split
    next => exact ⟨_, rfl⟩
    next =>
      rw [hfind]
      dsimp only
      rw [if_neg hdiffers]
      exact ⟨_, rfl⟩

/-- The two things that a lesson can do which replaces nothing and is not refused. -/
theorem teach_once (hteach : lexicon.teach word wordType expression false = .ok (outcome, next)) :
    (outcome = .unchanged ∧ next = lexicon ∧
      ∃ e, lexicon.get? word = some e ∧ e.Answers ⟨word, wordType, expression, false⟩) ∨
    (outcome = .learned ∧ lexicon.get? word = none ∧
      ∃ e, e.Taught word ∧ e.Answers ⟨word, wordType, expression, false⟩ ∧
        next = lexicon.insert e) := by
  cases learns_of_teach ⟨word, wordType, expression, false⟩ hteach with
  | unchanged hfind hanswers => exact .inl ⟨rfl, rfl, _, hfind, hanswers⟩
  | learned htaught hanswers hnew => exact .inr ⟨rfl, hnew, _, htaught, hanswers, rfl⟩
  | replaced htaught hanswers hfind hother =>
      obtain ⟨cause, hrefused⟩ := teach_of_other hfind hother
      rw [hrefused] at hteach
      cases hteach

theorem teach_of_answer (hvalid : isValidWord (normalizeWord word) = true ∧
      structuralWords.contains (normalizeWord word) = false) (hget : lexicon.get? word = some e)
    (hanswers : e.Answers ⟨word, wordType, expression, false⟩) :
    lexicon.teach word wordType expression false = .ok (.unchanged, lexicon) :=
  @teach_of_known lexicon ⟨word, wordType, expression, false⟩ e hvalid.1 hvalid.2 hget hanswers

theorem grows_of_teach
    (hteach : lexicon.teach word wordType expression false = .ok (outcome, next)) :
    lexicon.Grows next := by
  obtain ⟨-, rfl, -⟩ | ⟨-, hnew, e, htaught, hanswers, rfl⟩ := teach_once hteach
  · exact .refl next
  · have hkey : e.word = normalizeWord word := hanswers.word
    constructor
    · intro key d hfind
      rw [find?_insert_of_ne]
      · exact hfind
      · rintro rfl
        rw [get?, ← hkey, hfind] at hnew
        cases hnew
    · intro key d hfind
      rw [find?_insert] at hfind
      split at hfind
      next =>
        cases hfind
        exact .inr ⟨word, htaught⟩
      next => exact .inl hfind

theorem Grows.teach_of_ok (hgrows : next.Grows later)
    (hteach : lexicon.teach word wordType expression false = .ok (outcome, next)) :
    later.teach word wordType expression false = .ok (.unchanged, later) := by
  obtain ⟨e, hget, hanswers⟩ :=
    (learns_of_teach ⟨word, wordType, expression, false⟩ hteach).exists_answer
  exact teach_of_answer (valid_of_teach hteach) (hgrows.kept hget) hanswers

/-- When a lesson is accepted that replaces nothing: the word is known just as the lesson has it, or
it is new and the lesson is sound. -/
theorem exists_teach_iff : (∃ result, lexicon.teach word wordType expression false = .ok result) ↔
    (isValidWord (normalizeWord word) = true ∧
      structuralWords.contains (normalizeWord word) = false) ∧
    ∃ e, e.Answers ⟨word, wordType, expression, false⟩ ∧
      (lexicon.get? word = some e ∨ (lexicon.get? word = none ∧ e.Taught word)) := by
  constructor
  · rintro ⟨⟨outcome, next⟩, hteach⟩
    refine ⟨valid_of_teach hteach, ?_⟩
    obtain ⟨-, -, e, hget, hanswers⟩ | ⟨-, hnew, e, htaught, hanswers, -⟩ := teach_once hteach
    · exact ⟨e, hanswers, .inl hget⟩
    · exact ⟨e, hanswers, .inr ⟨hnew, htaught⟩⟩
  · rintro ⟨hvalid, e, hanswers, hget | ⟨hnew, htaught⟩⟩
    · exact ⟨_, teach_of_answer hvalid hget hanswers⟩
    · rw [get?, ← htaught.normal] at hnew
      exact ⟨_, teach_of_new htaught hanswers.wordType hanswers.expression.symm hnew⟩

/-- A lesson that is accepted later on was acceptable before: an entry that makes it known was
taught, so it could have been learned then. -/
theorem Grows.exists_teach (hgrows : lexicon.Grows later)
    (haccepted : ∃ result, later.teach word wordType expression false = .ok result) :
    ∃ result, lexicon.teach word wordType expression false = .ok result := by
  rw [exists_teach_iff] at haccepted ⊢
  obtain ⟨hvalid, e, hanswers, hget | ⟨hnew, htaught⟩⟩ := haccepted
  · refine ⟨hvalid, e, hanswers, ?_⟩
    rcases hgrows.added hget with hold | ⟨other, htaught⟩
    · exact .inl hold
    · cases hold : lexicon.get? word with
      | none => exact .inr ⟨rfl, { htaught with normal := hanswers.word }⟩
      | some d => exact .inl ((hgrows.kept hold).symm.trans hget)
  · exact ⟨hvalid, e, hanswers, .inr ⟨hgrows.find?_eq_none hnew, htaught⟩⟩

theorem Grows.teach_of_error (hgrows : lexicon.Grows later)
    (hrefused : lexicon.teach word wordType expression false = .error cause) :
    ∃ cause, later.teach word wordType expression false = .error cause := by
  cases hteach : later.teach word wordType expression false with
  | error cause => exact ⟨cause, rfl⟩
  | ok result =>
      obtain ⟨earlier, haccepted⟩ := hgrows.exists_teach ⟨result, hteach⟩
      rw [hrefused] at haccepted
      cases haccepted

end Apprentice.Lexicon
