import Apprentice.Lexicon.Basic
import Apprentice.Proofs.Expr.Typing
import Apprentice.Proofs.Text.Trim

/-!
# What is in a lexicon

A lexicon comes about by lessons. Whatever they are, each of its entries is kept under the normal
form of a word that can be taught, with a trimmed expression and with the meaning that this
expression compiles to. Therefore an entry can be taught again from its parts, if its word is its
own normal form: then it is kept as it was.
-/

namespace Apprentice

variable {lexicon next : Lexicon} {word expression : String} {wordType : WordType} {replace : Bool}
  {outcome : TeachOutcome} {entry : Entry} {entries : List Entry}

/-- Whether an entry can have come from teaching a word. -/
structure Entry.Taught (entry : Entry) (word : String) : Prop where
  normal : entry.word = normalizeWord word
  valid : isValidWord entry.word = true
  unreserved : structuralWords.contains entry.word = false
  trimmed : Text.trimmed entry.expression = entry.expression
  compiled : Meaning.compile entry.word entry.wordType entry.expression = .ok entry.meaning

/-! ### Sorted entries -/

theorem insertEntry_of_lt (hlast : ∀ e ∈ entries, e.word < entry.word) :
    insertEntry entry entries = entries ++ [entry] := by
  induction entries with
  | nil => rfl
  | cons e entries ih =>
      obtain ⟨he, hentries⟩ := List.forall_mem_cons.mp hlast
      rw [insertEntry, if_neg (String.lt_asymm he), if_neg (fun heq => String.lt_irrefl _ (heq ▸ he)),
        ih hentries]
      rfl

namespace Lexicon

theorem eq_of_entries (heq : next.entries = lexicon.entries) : next = lexicon := by
  cases next
  cases lexicon
  cases heq
  rfl

theorem find?_eq_none (hnot : ∀ e ∈ lexicon.entries, e.word ≠ word) :
    lexicon.find? word = none := by
  rw [find?, List.find?_eq_none]
  intro e he
  simpa using hnot e he

end Lexicon

/-! ### Lessons -/

/-- What somebody wants to be learned. -/
structure Lesson where
  word : String
  wordType : WordType
  expression : String
  replace : Bool := false

/-- Whether an entry is what a lesson wants to be known. -/
structure Entry.Answers (entry : Entry) (lesson : Lesson) : Prop where
  word : entry.word = normalizeWord lesson.word
  wordType : entry.wordType = lesson.wordType
  expression : entry.expression = Text.trimmed lesson.expression

namespace Lexicon

/-- What a lesson does that is not refused: it is known already, or it puts in an entry, for a new
word or in place of another entry. -/
inductive Learns (lexicon : Lexicon) (lesson : Lesson) : TeachOutcome → Lexicon → Prop where
  | unchanged {e : Entry} (hfind : lexicon.find? (normalizeWord lesson.word) = some e)
      (hanswers : e.Answers lesson) : Learns lexicon lesson .unchanged lexicon
  | learned {entry : Entry} (htaught : entry.Taught lesson.word) (hanswers : entry.Answers lesson)
      (hfind : lexicon.find? (normalizeWord lesson.word) = none) :
      Learns lexicon lesson .learned (lexicon.insert entry)
  | replaced {e entry : Entry} (htaught : entry.Taught lesson.word)
      (hanswers : entry.Answers lesson)
      (hfind : lexicon.find? (normalizeWord lesson.word) = some e) (hother : ¬e.Answers lesson) :
      Learns lexicon lesson (.replaced e.expression) (lexicon.insert entry)

theorem learns_of_teach (lesson : Lesson) (hteach : lexicon.teach lesson.word lesson.wordType
    lesson.expression lesson.replace = .ok (outcome, next)) :
    Learns lexicon lesson outcome next := by
  rw [teach] at hteach
  dsimp only at hteach
  split at hteach
  next => cases hteach
  next hvalid =>
    split at hteach
    next => cases hteach
    next hunreserved =>
      -- a new word and a word whose meaning is replaced are added in the same way
      have hadded : ∀ {added}, (do
            let meaning ← Meaning.compile (normalizeWord lesson.word) lesson.wordType
              (Text.trimmed lesson.expression)
            return lexicon.insert ⟨normalizeWord lesson.word, lesson.wordType,
              Text.trimmed lesson.expression, meaning⟩) = .ok added →
          ∃ entry, entry.Taught lesson.word ∧ entry.Answers lesson ∧
            lexicon.insert entry = added := by
        intro added hcompiled
        obtain ⟨meaning, hmeaning, hinsert⟩ := bind_eq_ok hcompiled
        exact ⟨⟨normalizeWord lesson.word, lesson.wordType, Text.trimmed lesson.expression, meaning⟩,
          ⟨rfl, by simpa using hvalid, by simpa using hunreserved,
            Text.trimmed_trimmed lesson.expression, hmeaning⟩, ⟨rfl, rfl, rfl⟩,
          Except.ok.inj hinsert⟩
      split at hteach
      next hfind =>
        obtain ⟨added, hcompiled, hreturn⟩ := bind_eq_ok hteach
        obtain ⟨entry, htaught, hanswers, rfl⟩ := hadded hcompiled
        cases hreturn
        exact .learned htaught hanswers hfind
      next e hfind =>
        split at hteach
        next hsame =>
          have hkey : e.word = normalizeWord lesson.word := by
            simpa using List.find?_some hfind
          cases hteach
          exact .unchanged hfind ⟨hkey, hsame.1, hsame.2⟩
        next hdiffers =>
          split at hteach
          next => cases hteach
          next =>
            obtain ⟨added, hcompiled, hreturn⟩ := bind_eq_ok hteach
            obtain ⟨entry, htaught, hanswers, rfl⟩ := hadded hcompiled
            cases hreturn
            exact .replaced htaught hanswers hfind fun hanswers =>
              hdiffers ⟨hanswers.wordType, hanswers.expression⟩

/-- A lesson that succeeds changes nothing, or it adds an entry that was taught. -/
theorem teach_eq_ok
    (hteach : lexicon.teach word wordType expression replace = .ok (outcome, next)) :
    next = lexicon ∨ ∃ entry, entry.Taught word ∧ entry.wordType = wordType ∧
      lexicon.insert entry = next := by
  cases learns_of_teach ⟨word, wordType, expression, replace⟩ hteach with
  | unchanged => exact .inl rfl
  | learned htaught hanswers | replaced htaught hanswers =>
      exact .inr ⟨_, htaught, hanswers.wordType, rfl⟩

theorem teach_of_new (htaught : entry.Taught word) (htype : entry.wordType = wordType)
    (hexpression : Text.trimmed expression = entry.expression)
    (hnew : lexicon.find? entry.word = none) :
    lexicon.teach word wordType expression replace = .ok (.learned, lexicon.insert entry) := by
  rw [teach, ← htaught.normal, ← htype, hexpression]
  dsimp only
  rw [htaught.valid, htaught.unreserved, hnew, htaught.compiled]
  rfl

theorem teach_of_taught (htaught : entry.Taught word)
    (hstable : normalizeWord entry.word = entry.word) (hnew : lexicon.find? entry.word = none) :
    lexicon.teach entry.word entry.wordType entry.expression false =
      .ok (.learned, lexicon.insert entry) :=
  teach_of_new { htaught with normal := hstable.symm } rfl htaught.trimmed hnew

/-- The lexicon after a lesson. One that is refused leaves it as it was. -/
def study (lexicon : Lexicon) (lesson : Lesson) : Lexicon :=
  match lexicon.teach lesson.word lesson.wordType lesson.expression lesson.replace with
  | .ok (_, next) => next
  | .error _ => lexicon

/-- The lexicon that lessons lead to from the empty one. -/
def ofLessons (lessons : List Lesson) : Lexicon :=
  lessons.foldl study .empty

theorem study_of_taught (htaught : entry.Taught word)
    (hstable : normalizeWord entry.word = entry.word)
    (hother : ∀ e, lexicon.find? entry.word = some e → e.expression ≠ entry.expression) :
    lexicon.study ⟨entry.word, entry.wordType, entry.expression, true⟩ = lexicon.insert entry := by
  have hteach : ∃ outcome, lexicon.teach entry.word entry.wordType entry.expression true =
      .ok (outcome, lexicon.insert entry) := by
    rw [teach, hstable, htaught.trimmed]
    dsimp only
    rw [htaught.valid, htaught.unreserved, htaught.compiled]
    cases hfind : lexicon.find? entry.word with
    | none => exact ⟨.learned, rfl⟩
    | some e =>
        have hdiffers : ¬(e.wordType = entry.wordType ∧ e.expression = entry.expression) :=
          fun hsame => hother e hfind hsame.2
        refine ⟨.replaced e.expression, ?_⟩
        dsimp only
        rw [if_neg hdiffers]
        rfl
  obtain ⟨outcome, hteach⟩ := hteach
  rw [study, hteach]

theorem mem_study {lesson : Lesson} (hmem : entry ∈ (lexicon.study lesson).entries) :
    entry ∈ lexicon.entries ∨ entry.Taught lesson.word := by
  rw [study] at hmem
  split at hmem
  next _ next hteach =>
    rcases teach_eq_ok hteach with rfl | ⟨added, hadded, -, rfl⟩
    · exact .inl hmem
    · rcases mem_insertEntry hmem with rfl | hmem
      · exact .inr hadded
      · exact .inl hmem
  next => exact .inl hmem

theorem mem_foldl_study {lessons : List Lesson}
    (hmem : entry ∈ (lessons.foldl study lexicon).entries) :
    entry ∈ lexicon.entries ∨ ∃ lesson ∈ lessons, entry.Taught lesson.word := by
  induction lessons generalizing lexicon with
  | nil => exact .inl hmem
  | cons lesson lessons ih =>
      rw [List.foldl_cons] at hmem
      rcases ih hmem with hstudied | ⟨later, hlater, htaught⟩
      · rcases mem_study hstudied with hmem | htaught
        · exact .inl hmem
        · exact .inr ⟨lesson, List.mem_cons_self, htaught⟩
      · exact .inr ⟨later, List.mem_cons_of_mem _ hlater, htaught⟩

/-- Whatever the lessons are, every entry comes from one of them. -/
theorem taught_ofLessons {lessons : List Lesson} (hmem : entry ∈ (ofLessons lessons).entries) :
    ∃ lesson ∈ lessons, entry.Taught lesson.word := by
  rcases mem_foldl_study hmem with hnone | htaught
  · cases hnone
  · exact htaught

end Lexicon

end Apprentice
