import Apprentice.Proofs.Lexicon.Taught

/-!
# Teaching words again

A noun, a property or a relation can be taught again, with another condition. The lexicon stays the
same by that, apart from the conditions of these words: taken out, they leave the same words with
meanings of the same kind. Nouns and properties are not told apart here, as both have a condition on
one object.
-/

namespace Apprentice

/-! ### Without conditions -/

/-- Stands for any condition. -/
def Predicate.unspecified : Predicate :=
  ⟨.unary, .literal (.str ""), ""⟩

def Meaning.bare : Meaning → Meaning
  | predicate _ => predicate .unspecified
  | relation _ => relation .unspecified
  | other => other

def WordType.bare : WordType → WordType
  | property => noun
  | other => other

def Entry.bare (e : Entry) : Entry :=
  ⟨e.word, e.wordType.bare, "", e.meaning.bare⟩

def Lexicon.bare (lexicon : Lexicon) : Lexicon :=
  ⟨lexicon.entries.map Entry.bare, List.pairwise_map.mpr lexicon.sorted⟩

@[simp] theorem Lexicon.entries_bare (lexicon : Lexicon) :
    lexicon.bare.entries = lexicon.entries.map Entry.bare := rfl

@[simp] theorem Lexicon.get?_bare (lexicon : Lexicon) (word : String) :
    lexicon.bare.get? word = (lexicon.get? word).map Entry.bare := by
  rw [get?, get?, find?, find?, entries_bare, List.find?_map]
  rfl

/-! ### Words with conditions -/

namespace Arity

def wordType : Arity → WordType
  | unary => .noun
  | binary => .relation

def meaning : Arity → Meaning
  | unary => .predicate .unspecified
  | binary => .relation .unspecified

end Arity

variable {lexicon later : Lexicon} {lesson : Lesson} {e f : Entry} {word : String}
  {entries : List Entry} {wordType : WordType} {expression : String} {meaning : Meaning}

theorem WordType.bare_of_arity? {arity : Arity} (harity : wordType.arity? = some arity) :
    wordType.bare = arity.wordType := by
  cases wordType <;> cases harity <;> rfl

theorem Meaning.bare_of_compile {arity : Arity} (harity : wordType.arity? = some arity)
    (hcompile : Meaning.compile word wordType expression = .ok meaning) :
    meaning.bare = arity.meaning := by
  cases wordType with
  | noun | property | relation =>
      obtain ⟨condition, -, hmeaning⟩ := bind_eq_ok hcompile
      cases harity
      cases hmeaning
      rfl
  | _ => cases harity

theorem Meaning.compile_of_unary {p : Predicate} (harity : wordType.arity? = some .unary)
    (htrimmed : Text.trimmed expression = expression)
    (hcompile : Predicate.compile .unary expression = .ok p) :
    Meaning.compile word wordType expression = .ok (.predicate p) := by
  rw [Meaning.compile, htrimmed, ofTrimmed.eq_def]
  dsimp only
  rw [hcompile]
  cases wordType <;> cases harity <;> rfl

theorem Meaning.compile_of_operator {connective : Connective}
    (htrimmed : Text.trimmed expression = expression)
    (hlabel : Connective.ofLabel? (String.ofList (Text.lower expression.toList)) =
      some connective) :
    Meaning.compile word .operator expression = .ok (.operator connective) := by
  rw [Meaning.compile, htrimmed, ofTrimmed.eq_def]
  dsimp only
  rw [hlabel]
  rfl

/-- Two entries of one word that have conditions on equally many objects differ only in these. -/
theorem Entry.Taught.bare_eq {other : String} {arity : Arity} (he : e.Taught word)
    (hf : f.Taught other) (hword : e.word = f.word) (hearity : e.wordType.arity? = some arity)
    (hfarity : f.wordType.arity? = some arity) : e.bare = f.bare := by
  rw [bare, bare, hword, WordType.bare_of_arity? hearity, WordType.bare_of_arity? hfarity,
    Meaning.bare_of_compile hearity he.compiled, Meaning.bare_of_compile hfarity hf.compiled]

/-! ### Lessons -/

/-- Whether a lesson is about a noun, a property or a relation that is known, and keeps the number
of objects that its condition is about. -/
def Lesson.Reteaches (lesson : Lesson) (lexicon : Lexicon) : Prop :=
  ∃ e arity, lexicon.get? lesson.word = some e ∧ e.wordType.arity? = some arity ∧
    lesson.wordType.arity? = some arity

namespace Lexicon

/-- The lexicons that come from one by teaching nouns, properties and relations again. -/
inductive Reteaches (lexicon : Lexicon) : Lexicon → Prop where
  | refl : Reteaches lexicon lexicon
  | step {later : Lexicon} (h : Reteaches lexicon later) {lesson : Lesson}
      (hlesson : lesson.Reteaches later) : Reteaches lexicon (later.study lesson)

theorem mem_of_get? (hget : lexicon.get? word = some e) :
    e ∈ lexicon.entries ∧ e.word = normalizeWord word :=
  ⟨List.mem_of_find?_eq_some hget, by simpa using List.find?_some hget⟩

end Lexicon

theorem map_bare_insertEntry (hsorted : entries.Pairwise (·.word < ·.word)) (hmem : e ∈ entries)
    (hword : e.word = f.word) (hbare : e.bare = f.bare) :
    (insertEntry f entries).map Entry.bare = entries.map Entry.bare := by
  induction entries with
  | nil => cases hmem
  | cons d entries ih =>
      obtain ⟨hhead, hsorted⟩ := List.pairwise_cons.mp hsorted
      rcases List.mem_cons.mp hmem with rfl | hmem
      · rw [insertEntry, if_neg (hword ▸ String.lt_irrefl _), if_pos hword.symm, List.map_cons,
          List.map_cons, hbare]
      · have hlt : d.word < f.word := hword ▸ hhead e hmem
        rw [insertEntry, if_neg (String.lt_asymm hlt),
          if_neg fun heq => String.lt_irrefl _ (heq ▸ hlt), List.map_cons, List.map_cons,
          ih hsorted hmem]

namespace Lexicon

theorem bare_insert (hmem : e ∈ lexicon.entries) (hword : e.word = f.word)
    (hbare : e.bare = f.bare) : (lexicon.insert f).bare = lexicon.bare :=
  eq_of_entries (map_bare_insertEntry lexicon.sorted hmem hword hbare)

theorem bare_study (htaught : ∀ e ∈ lexicon.entries, ∃ word, e.Taught word)
    (hlesson : lesson.Reteaches lexicon) : (lexicon.study lesson).bare = lexicon.bare := by
  obtain ⟨e, arity, hget, hearity, harity⟩ := hlesson
  obtain ⟨hmem, hword⟩ := mem_of_get? hget
  obtain ⟨_, he⟩ := htaught e hmem
  rw [study]
  split
  next outcome next hteach =>
    rcases teach_eq_ok hteach with rfl | ⟨added, hadded, htype, rfl⟩
    · rfl
    · have hsame : e.word = added.word := hword.trans hadded.normal.symm
      exact bare_insert hmem hsame (he.bare_eq hadded hsame hearity (htype ▸ harity))
  next => rfl

theorem ofLessons_concat (lessons : List Lesson) (lesson : Lesson) :
    ofLessons (lessons ++ [lesson]) = (ofLessons lessons).study lesson := by
  rw [ofLessons, List.foldl_concat, ← ofLessons]

/-- What is taught again was taught as well, so the lexicon keeps coming from lessons. -/
theorem Reteaches.exists_ofLessons {lessons : List Lesson}
    (hreteaches : (ofLessons lessons).Reteaches later) : ∃ all, later = ofLessons all := by
  induction hreteaches with
  | refl => exact ⟨lessons, rfl⟩
  | @step _ _ lesson _ ih =>
      obtain ⟨all, rfl⟩ := ih
      exact ⟨all ++ [lesson], (ofLessons_concat all lesson).symm⟩

/-- However often nouns, properties and relations are taught again, the lexicon stays the same apart
from their conditions. -/
theorem Reteaches.bare_eq {lessons : List Lesson}
    (hreteaches : (ofLessons lessons).Reteaches later) : later.bare = (ofLessons lessons).bare := by
  induction hreteaches with
  | refl => rfl
  | step hreteaches hlesson ih =>
      obtain ⟨all, rfl⟩ := hreteaches.exists_ofLessons
      rw [bare_study _ hlesson, ih]
      intro e he
      obtain ⟨lesson, -, htaught⟩ := taught_ofLessons he
      exact ⟨lesson.word, htaught⟩

end Lexicon

end Apprentice
