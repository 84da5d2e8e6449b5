import Apprentice.Lexicon.Meaning
import Apprentice.Lexicon.Word

/-!
# The lexicon

The words that have been taught, each with its meaning, in ascending order. A word is looked up in
its normal form, so letter case and the spelling of accents do not matter. Nothing is stored that
does not compile.
-/

namespace Apprentice

/-- A taught word. -/
structure Entry where
  /-- The word in normal form. -/
  word : String
  wordType : WordType
  /-- The text of the meaning, without blanks around it. -/
  expression : String
  meaning : Meaning
  deriving Repr

/-- Puts an entry at its place among sorted entries, over an entry of the same word. -/
def insertEntry (entry : Entry) : List Entry → List Entry
  | [] => [entry]
  | e :: es =>
    if entry.word < e.word then entry :: e :: es
    else if entry.word = e.word then entry :: es
    else e :: insertEntry entry es

theorem mem_insertEntry {entry e : Entry} {es : List Entry} (h : e ∈ insertEntry entry es) :
    e = entry ∨ e ∈ es := by
  induction es with
  | nil => simpa [insertEntry] using h
  | cons d ds ih =>
    unfold insertEntry at h
    split at h
    · simpa using h
    · split at h
      · rcases List.mem_cons.mp h with h | h
        · exact .inl h
        · exact .inr (List.mem_cons_of_mem _ h)
      · rcases List.mem_cons.mp h with h | h
        · exact .inr (h ▸ List.mem_cons_self)
        · exact (ih h).imp id (List.mem_cons_of_mem _)

theorem pairwise_insertEntry (entry : Entry) {es : List Entry}
    (h : es.Pairwise (·.word < ·.word)) :
    (insertEntry entry es).Pairwise (·.word < ·.word) := by
  induction es with
  | nil => simp [insertEntry]
  | cons e es ih =>
    have hall := (List.pairwise_cons.mp h).1
    have htail := (List.pairwise_cons.mp h).2
    unfold insertEntry
    split
    · next hlt =>
      refine List.pairwise_cons.mpr ⟨fun d hd => ?_, h⟩
      rcases List.mem_cons.mp hd with rfl | hd
      · exact hlt
      · exact String.lt_trans hlt (hall d hd)
    · split
      · next heq => exact List.pairwise_cons.mpr ⟨fun d hd => heq ▸ hall d hd, htail⟩
      · next hnot hne =>
        refine List.pairwise_cons.mpr ⟨fun d hd => ?_, ih htail⟩
        rcases mem_insertEntry hd with rfl | hd
        · exact String.not_le.mp fun hle =>
            hne (String.le_antisymm hle (String.not_lt.mp hnot))
        · exact hall d hd

structure Lexicon where
  entries : List Entry
  sorted : entries.Pairwise (·.word < ·.word)

/-- What teaching a word did. -/
inductive TeachOutcome where
  | learned
  /-- The word had this type and meaning before. -/
  | unchanged
  | replaced (previous : String)
  deriving DecidableEq, Repr

namespace Lexicon

def empty : Lexicon :=
  ⟨[], .nil⟩

instance : Inhabited Lexicon :=
  ⟨empty⟩

/-- The entry that is kept under a normal form. -/
def find? (lexicon : Lexicon) (key : String) : Option Entry :=
  lexicon.entries.find? fun entry => entry.word == key

/-- The entry of a word in any spelling. -/
def get? (lexicon : Lexicon) (word : String) : Option Entry :=
  lexicon.find? (normalizeWord word)

def contains (lexicon : Lexicon) (word : String) : Bool :=
  (lexicon.get? word).isSome

def size (lexicon : Lexicon) : Nat :=
  lexicon.entries.length

def isEmpty (lexicon : Lexicon) : Bool :=
  lexicon.entries.isEmpty

def insert (lexicon : Lexicon) (entry : Entry) : Lexicon :=
  ⟨insertEntry entry lexicon.entries, pairwise_insertEntry entry lexicon.sorted⟩

/-- Teaches a word. A word that has another meaning already is refused, unless `replace` is set. -/
def teach (lexicon : Lexicon) (word : String) (wordType : WordType) (expression : String)
    (replace : Bool) : Except TeachError (TeachOutcome × Lexicon) :=
  let key := normalizeWord word
  let expression := Text.trimmed expression
  if !isValidWord key then .error (.invalidWord word)
  else if structuralWords.contains key then .error (.reserved key)
  else
    let compiled := do
      let meaning ← Meaning.compile key wordType expression
      return lexicon.insert ⟨key, wordType, expression, meaning⟩
    match lexicon.find? key with
    | none => return (.learned, ← compiled)
    | some existing =>
      if existing.wordType = wordType ∧ existing.expression = expression then
        .ok (.unchanged, lexicon)
      else if !replace then
        .error (.duplicate key existing.wordType existing.expression)
      else return (.replaced existing.expression, ← compiled)

/-- The entries of one type, in order. -/
def ofType (lexicon : Lexicon) (wordType : WordType) : List Entry :=
  lexicon.entries.filter fun entry => entry.wordType == wordType

/-- The entries whose words start with a text in any spelling. As the words are sorted, they stand
together, from the first word that is not below the text. -/
def withPrefix (lexicon : Lexicon) (start : String) : List Entry :=
  let start := normalizeWord start
  (lexicon.entries.dropWhile fun entry => decide (entry.word < start)).takeWhile fun entry =>
    start.toList.isPrefixOf entry.word.toList

end Lexicon

end Apprentice
