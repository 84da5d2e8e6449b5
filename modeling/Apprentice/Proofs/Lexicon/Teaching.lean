import Apprentice.Proofs.Lexicon.Reteaching

/-!
# What a lesson changes

A lesson is refused, or it is known already, or it puts one entry into the lexicon: under a new
word, or in place of the entry of that word. The entry is found under its word from then on, and
under all other words there is what was there before. So the same lesson is known when it comes
again.
-/

namespace Apprentice

variable {lexicon next : Lexicon} {lesson : Lesson} {outcome : TeachOutcome} {entry e : Entry}
  {entries : List Entry} {word key expression : String}
  {wordType : WordType} {replace : Bool}

/-! ### Looking up -/

theorem find?_insertEntry (entry : Entry) (entries : List Entry) (key : String) :
    (insertEntry entry entries).find? (fun e => e.word == key) =
      if key = entry.word then some entry else entries.find? fun e => e.word == key := by
  have hself : (entry.word == key) = decide (key = entry.word) := by
    rw [Bool.eq_iff_iff, beq_iff_eq, decide_eq_true_iff, eq_comm]
  induction entries with
  | nil => by_cases hkey : key = entry.word <;> simp [insertEntry, hself, hkey]
  | cons e entries ih =>
      rw [insertEntry]
      split
      next => by_cases hkey : key = entry.word <;> simp [List.find?_cons, hself, hkey]
      next =>
        split
        next heq =>
          -- the entry in front makes way, and it had the word of the new one
          rw [List.find?_cons, List.find?_cons, ← heq, hself]
          by_cases hkey : key = entry.word <;> simp [hkey]
        next hne =>
          rw [List.find?_cons, List.find?_cons, ih]
          cases hfront : e.word == key with
          | false => rfl
          | true => exact (if_neg fun hkey => hne (hkey.symm.trans (eq_of_beq hfront).symm)).symm

theorem length_insertEntry (hsorted : entries.Pairwise (·.word < ·.word)) :
    (insertEntry entry entries).length =
      if (entries.find? fun e => e.word == entry.word).isSome then entries.length
      else entries.length + 1 := by
  induction entries with
  | nil => rfl
  | cons e entries ih =>
      obtain ⟨hhead, hsorted⟩ := List.pairwise_cons.mp hsorted
      rw [insertEntry]
      split
      next hlt =>
        have hnone : (e :: entries).find? (fun d => d.word == entry.word) = none := by
          refine List.find?_eq_none.mpr fun d hd heq => ?_
          have habove : entry.word < d.word := by
            rcases List.mem_cons.mp hd with rfl | hd
            · exact hlt
            · exact String.lt_trans hlt (hhead d hd)
          exact String.lt_irrefl _ (eq_of_beq heq ▸ habove)
        rw [hnone]
        rfl
      next =>
        split
        next heq => simp [heq]
        next hne =>
          have hother : (e.word == entry.word) = false :=
            beq_eq_false_iff_ne.mpr fun heq => hne heq.symm
          rw [List.length_cons, List.length_cons, ih hsorted, List.find?_cons, hother]
          dsimp only
          split <;> rfl

namespace Lexicon

/-- An entry is found under its word, and everything else is found as before. -/
theorem find?_insert (lexicon : Lexicon) (entry : Entry) (key : String) :
    (lexicon.insert entry).find? key =
      if key = entry.word then some entry else lexicon.find? key :=
  find?_insertEntry entry lexicon.entries key

theorem find?_insert_self (lexicon : Lexicon) (entry : Entry) :
    (lexicon.insert entry).find? entry.word = some entry := by
  rw [find?_insert, if_pos rfl]

theorem find?_insert_of_ne (hkey : key ≠ entry.word) :
    (lexicon.insert entry).find? key = lexicon.find? key := by
  rw [find?_insert, if_neg hkey]

theorem size_insert (lexicon : Lexicon) (entry : Entry) :
    (lexicon.insert entry).size =
      if (lexicon.find? entry.word).isSome then lexicon.size else lexicon.size + 1 :=
  length_insertEntry lexicon.sorted

theorem find?_of_mem (hmem : e ∈ lexicon.entries) : lexicon.find? e.word = some e := by
  obtain ⟨entries, hsorted⟩ := lexicon
  change entries.find? (fun d => d.word == e.word) = some e
  change e ∈ entries at hmem
  induction entries with
  | nil => cases hmem
  | cons d entries ih =>
      obtain ⟨hhead, hsorted⟩ := List.pairwise_cons.mp hsorted
      rcases List.mem_cons.mp hmem with rfl | hmem
      · simp
      · have hne : (d.word == e.word) = false :=
          beq_eq_false_iff_ne.mpr fun heq => String.lt_irrefl _ (heq ▸ hhead e hmem)
        rw [List.find?_cons, hne]
        exact ih hsorted hmem

end Lexicon

/-! ### Lessons -/

namespace Lexicon

/-- What a lexicon is to keep: each entry under its own word, which can be taught, with a trimmed
expression and the meaning that it compiles to. -/
def Canonical (lexicon : Lexicon) : Prop :=
  ∀ e ∈ lexicon.entries, lexicon.find? e.word = some e ∧ isValidWord e.word = true ∧
    structuralWords.contains e.word = false ∧ Text.trimmed e.expression = e.expression ∧
    Meaning.compile e.word e.wordType e.expression = .ok e.meaning

theorem canonical_ofLessons (lessons : List Lesson) : (ofLessons lessons).Canonical := by
  intro e he
  obtain ⟨lesson, -, htaught⟩ := taught_ofLessons he
  exact ⟨find?_of_mem he, htaught.valid, htaught.unreserved, htaught.trimmed, htaught.compiled⟩

/-- What the outcome of a lesson says about the lexicon before and after it: which entry there was
for the word, and how many words there are. -/
def Accounts (lexicon next : Lexicon) (lesson : Lesson) : TeachOutcome → Prop
  | .learned => lexicon.find? (normalizeWord lesson.word) = none ∧ next.size = lexicon.size + 1
  | .unchanged => next = lexicon
  | .replaced previous => ∃ e, lexicon.find? (normalizeWord lesson.word) = some e ∧
      e.expression = previous ∧ ¬e.Answers lesson ∧ next.size = lexicon.size

namespace Learns

variable (hlearns : Learns lexicon lesson outcome next)

include hlearns

theorem accounts : Accounts lexicon next lesson outcome := by
  cases hlearns with
  | unchanged => rfl
  | learned htaught hanswers hfind =>
      refine ⟨hfind, ?_⟩
      rw [size_insert, hanswers.word, hfind]
      rfl
  | replaced htaught hanswers hfind hother =>
      refine ⟨_, hfind, rfl, hother, ?_⟩
      rw [size_insert, hanswers.word, hfind]
      rfl

theorem exists_answer : ∃ e, next.get? lesson.word = some e ∧ e.Answers lesson := by
  cases hlearns with
  | unchanged hfind hanswers => exact ⟨_, hfind, hanswers⟩
  | learned htaught hanswers | replaced htaught hanswers =>
      refine ⟨_, ?_, hanswers⟩
      rw [get?, ← hanswers.word, find?_insert_self]

theorem find?_of_ne (hkey : key ≠ normalizeWord lesson.word) :
    next.find? key = lexicon.find? key := by
  cases hlearns with
  | unchanged => rfl
  | learned htaught hanswers | replaced htaught hanswers =>
      exact find?_insert_of_ne (hanswers.word ▸ hkey)

end Learns

theorem valid_of_teach (hteach : lexicon.teach word wordType expression replace =
    .ok (outcome, next)) :
    isValidWord (normalizeWord word) = true ∧
      structuralWords.contains (normalizeWord word) = false := by
  rw [teach] at hteach
  dsimp only at hteach
  split at hteach
  next => cases hteach
  next hvalid =>
    split at hteach
    next => cases hteach
    next hunreserved => exact ⟨by simpa using hvalid, by simpa using hunreserved⟩

theorem teach_of_known (hvalid : isValidWord (normalizeWord lesson.word) = true)
    (hunreserved : structuralWords.contains (normalizeWord lesson.word) = false)
    (hget : lexicon.get? lesson.word = some e) (hanswers : e.Answers lesson) :
    lexicon.teach lesson.word lesson.wordType lesson.expression lesson.replace =
      .ok (.unchanged, lexicon) := by
  have hsame : e.wordType = lesson.wordType ∧ e.expression = Text.trimmed lesson.expression :=
    ⟨hanswers.wordType, hanswers.expression⟩
  rw [get?] at hget
  rw [teach]
  dsimp only
  rw [hvalid, hunreserved, hget]
  exact if_pos hsame

/-- The same lesson changes nothing when it comes again at once. -/
theorem teach_again (hteach : lexicon.teach lesson.word lesson.wordType lesson.expression
    lesson.replace = .ok (outcome, next)) :
    next.teach lesson.word lesson.wordType lesson.expression lesson.replace =
      .ok (.unchanged, next) := by
  obtain ⟨hvalid, hunreserved⟩ := valid_of_teach hteach
  obtain ⟨e, hget, hanswers⟩ := (learns_of_teach lesson hteach).exists_answer
  exact teach_of_known hvalid hunreserved hget hanswers

/-- Whatever the lessons were, the lexicon keeps what it is to keep. One more lesson leaves it as it
was if it is refused. Otherwise the outcome tells what changed, the word is known as the lesson has
it, all other words keep their entries, and the same lesson changes nothing when it comes again. -/
theorem ofLessons_accountable (lessons : List Lesson) :
    (ofLessons lessons).Canonical ∧ ∀ lesson : Lesson,
      match (ofLessons lessons).teach lesson.word lesson.wordType lesson.expression
          lesson.replace with
      | .error _ => ofLessons (lessons ++ [lesson]) = ofLessons lessons
      | .ok (outcome, next) => ofLessons (lessons ++ [lesson]) = next ∧
          Accounts (ofLessons lessons) next lesson outcome ∧
          (∃ e, next.get? lesson.word = some e ∧ e.wordType = lesson.wordType ∧
            e.expression = Text.trimmed lesson.expression) ∧
          (∀ key, key ≠ normalizeWord lesson.word →
            next.find? key = (ofLessons lessons).find? key) ∧
          next.teach lesson.word lesson.wordType lesson.expression lesson.replace =
            .ok (.unchanged, next) := by
  refine ⟨canonical_ofLessons lessons, fun lesson => ?_⟩
  rw [ofLessons_concat, study]
  cases hteach : (ofLessons lessons).teach lesson.word lesson.wordType lesson.expression
      lesson.replace with
  | error _ => rfl
  | ok result =>
      obtain ⟨outcome, next⟩ := result
      have hlearns := learns_of_teach lesson hteach
      obtain ⟨e, hget, hanswers⟩ := hlearns.exists_answer
      exact ⟨rfl, hlearns.accounts, ⟨e, hget, hanswers.wordType, hanswers.expression⟩,
        fun key hkey => hlearns.find?_of_ne hkey, teach_again hteach⟩

/-- A word has another meaning only if it may be replaced. -/
example :
    let first := ofLessons [⟨"Hi", .social, " warm greeting ", false⟩]
    let answer := fun replace =>
      (first.teach "hi" .social "greeting" replace).toOption.map fun result => result.1
    answer false = none ∧ answer true = some (.replaced "warm greeting") := by
  decide +kernel

end Lexicon

end Apprentice
