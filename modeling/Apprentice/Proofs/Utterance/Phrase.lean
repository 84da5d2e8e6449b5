import Apprentice.Proofs.Agent.LearnableWords
import Apprentice.Proofs.Lexicon.Persistence
import Apprentice.Proofs.Lexicon.Reteaching
import Apprentice.Proofs.Utterance.Alternatives
import Apprentice.Proofs.Utterance.Spoken
import Apprentice.Proofs.World.Run

/-!
# Descriptions that are said

A description is said word by word, with the words for negations and alternatives between its own.
Words can be taught only if there is nothing in them that the text is cut at, so each of them comes
back as one token, and a word that is known is read as what it is known for, whatever objects there
are. Main statement: with the usual words for `not` and `or`, the phrase of a description is read as
the description.
-/

namespace Apprentice

/-- A word, and what it is said for. -/
structure Saying where
  word : String
  meaning : Meaning

def Saying.not : Saying :=
  ⟨"not", .operator .not⟩

def Saying.or : Saying :=
  ⟨"or", .operator .or⟩

def Term.sayings (t : Term) : List Saying :=
  if t.negated then [.not, ⟨t.word, .predicate t.predicate⟩] else [⟨t.word, .predicate t.predicate⟩]

def sayingsOf (alternatives : List (List Term)) : List Saying :=
  [Saying.or].intercalate (alternatives.map fun terms => terms.flatMap Term.sayings)

/-- A word in normal form that is taught with the meaning it is said for. -/
structure Lexicon.Knows (lexicon : Lexicon) (s : Saying) : Prop where
  normal : normalizeWord s.word = s.word
  meaning : (lexicon.get? s.word).map Entry.meaning = some s.meaning

variable {lexicon : Lexicon} {world : World} {terms : List Term} {alternatives : List (List Term)}
  {words : List String} {sayings more : List Saying}

/-! ### The words of a phrase -/

/-- The words of a list of sayings, as they are said. -/
def said (sayings : List Saying) : String :=
  " ".intercalate (sayings.map Saying.word)

theorem said_append (hsayings : sayings ≠ []) (hmore : more ≠ []) :
    said (sayings ++ more) = said sayings ++ " " ++ said more := by
  rw [said, List.map_append, String.intercalate_append_of_ne_nil
    (mt List.map_eq_nil_iff.mp hsayings) (mt List.map_eq_nil_iff.mp hmore)]
  rfl

theorem said_cons (s : Saying) (hmore : more ≠ []) :
    said (s :: more) = s.word ++ " " ++ said more := by
  rw [← List.singleton_append, said_append (List.cons_ne_nil s []) hmore, said, List.map_singleton,
    String.intercalate_singleton]

theorem Term.sayings_ne_nil (t : Term) : t.sayings ≠ [] := by
  rw [sayings]
  split <;> exact List.cons_ne_nil _ _

theorem Term.phrase_eq (t : Term) : t.phrase = said t.sayings := by
  rw [phrase, sayings]
  split
  · rw [said_cons _ (List.cons_ne_nil _ _), said, List.map_singleton, String.intercalate_singleton]
    rfl
  · rw [said, List.map_singleton, String.intercalate_singleton]

theorem flatMap_sayings_ne_nil (hterms : terms ≠ []) : terms.flatMap Term.sayings ≠ [] := by
  obtain ⟨t, terms, rfl⟩ := List.exists_cons_of_ne_nil hterms
  rw [List.flatMap_cons]
  exact List.append_ne_nil_of_left_ne_nil t.sayings_ne_nil _

theorem intercalate_phrase (terms : List Term) :
    " ".intercalate (terms.map Term.phrase) = said (terms.flatMap Term.sayings) := by
  induction terms with
  | nil => rfl
  | cons t terms ih =>
      by_cases hnil : terms = []
      · rw [hnil, List.map_singleton, String.intercalate_singleton, List.flatMap_singleton,
          t.phrase_eq]
      · rw [List.map_cons, String.intercalate_cons_of_ne_nil (mt List.map_eq_nil_iff.mp hnil), ih,
          List.flatMap_cons, said_append t.sayings_ne_nil (flatMap_sayings_ne_nil hnil),
          t.phrase_eq]

theorem sayingsOf_singleton (terms : List Term) :
    sayingsOf [terms] = terms.flatMap Term.sayings :=
  List.intercalate_singleton

theorem sayingsOf_cons (terms : List Term) (hnil : alternatives ≠ []) :
    sayingsOf (terms :: alternatives) =
      terms.flatMap Term.sayings ++ .or :: sayingsOf alternatives := by
  obtain ⟨next, alternatives, rfl⟩ := List.exists_cons_of_ne_nil hnil
  rw [sayingsOf, List.map_cons, List.map_cons, List.intercalate_cons_cons, List.append_assoc]
  rfl

theorem sayingsOf_ne_nil (hnil : alternatives ≠ []) (hterms : ∀ terms ∈ alternatives, terms ≠ []) :
    sayingsOf alternatives ≠ [] := by
  obtain ⟨terms, alternatives, rfl⟩ := List.exists_cons_of_ne_nil hnil
  have hfirst := flatMap_sayings_ne_nil (hterms terms List.mem_cons_self)
  by_cases hlast : alternatives = []
  · rwa [hlast, sayingsOf_singleton]
  · rw [sayingsOf_cons terms hlast]
    exact List.append_ne_nil_of_left_ne_nil hfirst _

theorem Description.phrase_eq {d : Description} (hnil : d.alternatives ≠ [])
    (hterms : ∀ terms ∈ d.alternatives, terms ≠ []) :
    d.phrase = said (sayingsOf d.alternatives) := by
  obtain ⟨alternatives⟩ := d
  rw [phrase, isEmpty, if_neg (by simpa using hnil)]
  induction alternatives, hnil using List.recNeNil with
  | singleton terms =>
      rw [List.map_singleton, String.intercalate_singleton, sayingsOf_singleton,
        intercalate_phrase]
  | cons terms alternatives hlast ih =>
      obtain ⟨hfirst, hterms⟩ := List.forall_mem_cons.mp hterms
      rw [List.map_cons, String.intercalate_cons_of_ne_nil (mt List.map_eq_nil_iff.mp hlast),
        ih hterms, sayingsOf_cons terms hlast,
        said_append (flatMap_sayings_ne_nil hfirst) (List.cons_ne_nil _ _),
        said_cons _ (sayingsOf_ne_nil hlast hterms), intercalate_phrase]
      simp only [String.append_assoc]
      rfl

/-! ### Its tokens -/

namespace Utterance

open Text

theorem core_of_valid {word : String} (hvalid : isValidWord word = true) :
    core word.toList = word.toList := by
  have hchars := List.all_eq_true.mp (Bool.and_eq_true_iff.mp hvalid).2
  refine strip_eq_self_iff.mpr ⟨fun c hc => ?_, fun c hc => ?_⟩
  · rw [hchars c (List.mem_of_head? hc), Bool.not_true]
  · rw [hchars c (List.mem_of_getLast? hc), Bool.not_true]

theorem toList_ne_nil_of_valid {word : String} (hvalid : isValidWord word = true) :
    word.toList ≠ [] := by
  intro hnil
  obtain rfl := String.toList_eq_nil_iff.mp hnil
  cases hvalid

def surfacesFrom (offset : Nat) (cs : List Char) : List String :=
  ((piecesFrom offset cs).filterMap fun (offset, piece) => wordOfPiece? offset piece).map
    SpannedWord.surface

theorem surfacesFrom_word {word : String} (hvalid : isValidWord word = true) {back : List Char}
    (hback : ∀ c ∈ back.head?, isBlank c = true) (offset : Nat) :
    surfacesFrom offset (word.toList ++ back) =
      word :: surfacesFrom (offset + byteLength word.toList) back := by
  have hchars := List.all_eq_true.mp (Bool.and_eq_true_iff.mp hvalid).2
  have hsome := toList_ne_nil_of_valid hvalid
  have hcore := core_of_valid hvalid
  obtain ⟨span, hword⟩ := wordOfPiece?_of_core (hcore.symm ▸ hsome) offset
  rw [hcore, String.ofList_toList] at hword
  rw [surfacesFrom, piecesFrom_piece (fun c hc => isBlank_of_isWordChar (hchars c hc)) hsome hback,
    List.filterMap_cons]
  dsimp only
  rw [hword]
  rfl

theorem surfacesFrom_intercalate (hwords : ∀ word ∈ words, isValidWord word = true)
    (offset : Nat) : surfacesFrom offset (" ".intercalate words).toList = words := by
  induction words generalizing offset with
  | nil => rw [String.intercalate_nil, surfacesFrom]; simp [piecesFrom]
  | cons word words ih =>
      obtain ⟨hvalid, hwords⟩ := List.forall_mem_cons.mp hwords
      by_cases hlast : words = []
      · rw [hlast, String.intercalate_singleton, ← List.append_nil word.toList,
          surfacesFrom_word hvalid (fun c hc => by cases hc)]
        simp [surfacesFrom, piecesFrom]
      · rw [String.intercalate_cons_of_ne_nil hlast, String.toList_append, String.toList_append,
          List.append_assoc, surfacesFrom_word hvalid (by simp [isBlank]), surfacesFrom,
          piecesFrom_append (by simp [isBlank]), ← surfacesFrom, ih hwords]

/-- A token is a word that is said. -/
structure Token.Says (t : Token) (s : Saying) : Prop where
  normalized : t.normalized = s.word
  meaning : t.meaning? = some s.meaning

theorem tokensAfter_said {previous : Option Token} {words : List SpannedWord}
    (hprevious : ∀ t ∈ previous, t.isStructural = false)
    (hwords : words.map SpannedWord.surface = sayings.map Saying.word)
    (hknows : ∀ s ∈ sayings, lexicon.Knows s) :
    List.Forall₂ Token.Says (tokensAfter lexicon world previous words) sayings := by
  induction sayings generalizing previous words with
  | nil =>
      rw [List.map_nil, List.map_eq_nil_iff] at hwords
      rw [hwords]
      exact .nil
  | cons s sayings ih =>
      obtain ⟨word, words, rfl, hword, hwords⟩ := List.map_eq_cons_iff.mp hwords
      obtain ⟨hknown, hknows⟩ := List.forall_mem_cons.mp hknows
      obtain ⟨e, hget, hmeaning⟩ := Option.map_eq_some_iff.mp hknown.meaning
      have hnormal : normalizeWord word.surface = s.word := by rw [hword, hknown.normal]
      have hrole : roleOf lexicon world previous word.surface s.word = .entry e :=
        roleOf_of_get? hprevious hget
      rw [tokensAfter, hnormal, hrole]
      refine .cons ⟨rfl, ?_⟩ (ih (fun t ht => ?_) hwords hknows)
      · rw [← hmeaning]
        rfl
      · obtain rfl := Option.some.inj ht
        rfl

/-! ### What is read from them -/

theorem exists_append_of_forall₂ {tokens : List Token}
    (hspoken : List.Forall₂ Token.Says tokens (sayings ++ more)) :
    ∃ front back, tokens = front ++ back ∧ List.Forall₂ Token.Says front sayings ∧
      List.Forall₂ Token.Says back more :=
  ⟨tokens.take sayings.length, tokens.drop sayings.length,
    (List.take_append_drop sayings.length tokens).symm,
    List.forall₂_take_append tokens sayings more hspoken,
    List.forall₂_drop_append tokens sayings more hspoken⟩

theorem readAlternatives_sayings {t : Term} {front : List Token}
    (hspoken : List.Forall₂ Token.Says front t.sayings) (terms : List Term) (rest : List Token) :
    readAlternatives false terms (front ++ rest) = readAlternatives false (terms ++ [t]) rest := by
  obtain ⟨word, negated, p⟩ := t
  cases negated with
  | false =>
      obtain ⟨token, tail, hword, hnil, rfl⟩ := List.forall₂_cons_right_iff.mp hspoken
      cases hnil
      rw [List.singleton_append, readAlternatives_term hword.meaning, hword.normalized]
  | true =>
      obtain ⟨not, tail, hnot, htail, rfl⟩ := List.forall₂_cons_right_iff.mp hspoken
      obtain ⟨token, tail, hword, hnil, rfl⟩ := List.forall₂_cons_right_iff.mp htail
      cases hnil
      rw [List.cons_append, readAlternatives_not hnot.meaning, List.singleton_append,
        readAlternatives_term hword.meaning, hword.normalized]
      rfl

theorem readAlternatives_flatMap {front : List Token}
    (hspoken : List.Forall₂ Token.Says front (terms.flatMap Term.sayings)) (before : List Term)
    (rest : List Token) :
    readAlternatives false before (front ++ rest) =
      readAlternatives false (before ++ terms) rest := by
  induction terms generalizing before front with
  | nil =>
      cases hspoken
      rw [List.nil_append, List.append_nil]
  | cons t terms ih =>
      rw [List.flatMap_cons] at hspoken
      obtain ⟨first, others, rfl, hfirst, hothers⟩ := exists_append_of_forall₂ hspoken
      rw [List.append_assoc, readAlternatives_sayings hfirst, ih hothers, List.append_assoc,
        List.singleton_append]

theorem readAlternatives_sayingsOf {tokens : List Token} (hnil : alternatives ≠ [])
    (hterms : ∀ terms ∈ alternatives, terms ≠ [])
    (hspoken : List.Forall₂ Token.Says tokens (sayingsOf alternatives)) :
    readAlternatives false [] tokens = some alternatives := by
  induction alternatives, hnil using List.recNeNil generalizing tokens with
  | singleton terms =>
      have hfull : ¬terms.isEmpty = true := by simpa using hterms
      rw [sayingsOf_singleton] at hspoken
      rw [← List.append_nil tokens, readAlternatives_flatMap hspoken, List.nil_append,
        readAlternatives, Bool.false_or, if_neg hfull]
  | cons terms alternatives hlast ih =>
      obtain ⟨hfirst, hterms⟩ := List.forall_mem_cons.mp hterms
      have hfull : ¬terms.isEmpty = true := by simpa using hfirst
      rw [sayingsOf_cons terms hlast] at hspoken
      obtain ⟨front, back, rfl, hfront, hback⟩ := exists_append_of_forall₂ hspoken
      obtain ⟨o, rest, ho, hrest, rfl⟩ := List.forall₂_cons_right_iff.mp hback
      rw [readAlternatives_flatMap hfront, List.nil_append, readAlternatives_or ho.meaning,
        if_neg hfull, ih hterms hrest, Option.map_some]

theorem content_of_said {tokens : List Token} (hspoken : List.Forall₂ Token.Says tokens sayings) :
    content tokens = tokens := by
  induction hspoken with
  | nil => rfl
  | cons hword _ ih => rw [content_cons (by rw [hword.meaning]; rfl), ih]

end Utterance

/-! ### The whole phrase -/

theorem forall_sayingsOf {P : Saying → Prop} (hnot : P .not) (hor : P .or)
    (hwords : ∀ terms ∈ alternatives, ∀ t ∈ terms, P ⟨t.word, .predicate t.predicate⟩) :
    ∀ s ∈ sayingsOf alternatives, P s := by
  have hterm : ∀ t : Term, P ⟨t.word, .predicate t.predicate⟩ → ∀ s ∈ t.sayings, P s := by
    intro t hword
    rw [Term.sayings]
    split
    · exact List.forall_mem_cons.mpr ⟨hnot, List.forall_mem_singleton.mpr hword⟩
    · exact List.forall_mem_singleton.mpr hword
  induction alternatives with
  | nil => exact nofun
  | cons terms alternatives ih =>
      obtain ⟨hfirst, hwords⟩ := List.forall_mem_cons.mp hwords
      have hterms : ∀ s ∈ terms.flatMap Term.sayings, P s := by
        intro s hs
        obtain ⟨t, ht, hs⟩ := List.mem_flatMap.mp hs
        exact hterm t (hfirst t ht) s hs
      by_cases hlast : alternatives = []
      · rwa [hlast, sayingsOf_singleton]
      · rw [sayingsOf_cons terms hlast]
        exact List.forall_mem_append.mpr ⟨hterms, List.forall_mem_cons.mpr ⟨hor, ih hwords⟩⟩

theorem Lexicon.Canonical.valid_of_knows {s : Saying} (hcanonical : lexicon.Canonical)
    (hknows : lexicon.Knows s) : isValidWord s.word = true := by
  obtain ⟨e, hget, -⟩ := Option.map_eq_some_iff.mp hknows.meaning
  obtain ⟨hmem, hword⟩ := mem_of_get? hget
  obtain ⟨-, hvalid, -⟩ := hcanonical e hmem
  rwa [hword, hknows.normal] at hvalid

namespace Utterance

/-- Words that can be taught come back as tokens, each of them for what it is said for. -/
theorem tokenize_said (hvalid : ∀ s ∈ sayings, isValidWord s.word = true)
    (hknows : ∀ s ∈ sayings, lexicon.Knows s) (world : World) :
    List.Forall₂ Token.Says (tokenize (said sayings) lexicon world) sayings := by
  have hwords : (splitWords (said sayings)).map SpannedWord.surface = sayings.map Saying.word :=
    surfacesFrom_intercalate (List.forall_mem_map.mpr hvalid) 0
  exact tokensAfter_said nofun hwords hknows

/-- The phrase of a description is read as the description, in every world. -/
theorem description?_phrase {lessons : List Lesson} {d : Description}
    (hnot : ((Lexicon.ofLessons lessons).get? "not").map Entry.meaning = some (.operator .not))
    (hor : ((Lexicon.ofLessons lessons).get? "or").map Entry.meaning = some (.operator .or))
    (hnil : d.alternatives ≠ []) (hterms : ∀ terms ∈ d.alternatives, terms ≠ [])
    (hwords : ∀ terms ∈ d.alternatives, ∀ t ∈ terms, normalizeWord t.word = t.word ∧
      ((Lexicon.ofLessons lessons).get? t.word).map Entry.meaning = some (.predicate t.predicate))
    (world : World) :
    description? (tokenize d.phrase (Lexicon.ofLessons lessons) world) = some d := by
  have hknows : ∀ s ∈ sayingsOf d.alternatives, (Lexicon.ofLessons lessons).Knows s :=
    forall_sayingsOf ⟨by decide +kernel, hnot⟩ ⟨by decide +kernel, hor⟩ fun terms hmem t ht =>
      ⟨(hwords terms hmem t ht).1, (hwords terms hmem t ht).2⟩
  have hcanonical := Lexicon.canonical_ofLessons lessons
  have hspoken := tokenize_said (fun s hs => hcanonical.valid_of_knows (hknows s hs)) hknows world
  have hfull : d.alternatives.filter (fun terms => !terms.isEmpty) = d.alternatives := by
    simpa [List.filter_eq_self] using hterms
  rw [d.phrase_eq hnil hterms, description?, content_of_said hspoken,
    readAlternatives_sayingsOf hnil hterms hspoken, Option.map_some, Description.ofAlternatives,
    hfull]

/-- A mound that is no heap, or a heap, is said and understood, although there is something with the
name of one of the words. -/
theorem description?_phrase_heap :
    let lexicon := Lexicon.ofLessons [⟨"heap", .noun, "obj.size > 1", false⟩,
      ⟨"mound", .noun, "obj.size > 1", false⟩, ⟨"not", .operator, "not", false⟩,
      ⟨"or", .operator, "or", false⟩]
    let d : Description :=
      ⟨[[⟨"mound", false, .sized⟩, ⟨"heap", true, .sized⟩], [⟨"heap", false, .sized⟩]]⟩
    let world := (World.new 2 1).perform (.create { name := some "heap" })
    (lexicon.get? "not").map Entry.meaning = some (.operator .not) ∧
      (lexicon.get? "or").map Entry.meaning = some (.operator .or) ∧
      d.alternatives ≠ [] ∧ (∀ terms ∈ d.alternatives, terms ≠ []) ∧
      (∀ terms ∈ d.alternatives, ∀ t ∈ terms, normalizeWord t.word = t.word ∧
        (lexicon.get? t.word).map Entry.meaning = some (.predicate t.predicate)) ∧
      d.phrase = "mound not heap or heap" ∧
      description? (tokenize d.phrase lexicon world) = some d := by
  intro lexicon d world
  let heap : Entry := .sized "heap"
  let mound : Entry := .sized "mound"
  let not : Entry := ⟨"not", .operator, "not", .operator .not⟩
  let or : Entry := ⟨"or", .operator, "or", .operator .or⟩
  let known : Lexicon := ⟨[heap, mound, not, or], by decide⟩
  have htrimmed : Text.trimmed "obj.size > 1" = "obj.size > 1" := by decide +kernel
  have hnoun : ∀ word, word = normalizeWord word ∧ isValidWord word = true ∧
      structuralWords.contains word = false → (Entry.sized word).Taught word :=
    fun word ⟨hnormal, hvalid, hunreserved⟩ => ⟨hnormal, hvalid, hunreserved, htrimmed,
      Meaning.compile_of_unary rfl htrimmed Predicate.compile_sized⟩
  have hnot : not.Taught "not" :=
    ⟨by decide +kernel, by decide +kernel, by decide +kernel, by decide +kernel,
      Meaning.compile_of_operator (by decide +kernel) (by decide +kernel)⟩
  have hor : or.Taught "or" :=
    ⟨by decide +kernel, by decide +kernel, by decide +kernel, by decide +kernel,
      Meaning.compile_of_operator (by decide +kernel) (by decide +kernel)⟩
  have htaught : ∀ e ∈ known.entries, e.Taught e.word := by
    simp only [known, List.forall_mem_cons]
    exact ⟨hnoun "heap" (by decide +kernel), hnoun "mound" (by decide +kernel), hnot, hor,
      List.forall_mem_nil _⟩
  have hlexicon : lexicon = known := Lexicon.ofLessons_entries htaught
  have hget : ∀ e ∈ known.entries, normalizeWord e.word = e.word ∧
      (lexicon.get? e.word).map Entry.meaning = some e.meaning := by
    intro e he
    have hnormal := (htaught e he).normal.symm
    rw [Lexicon.get?, hnormal, hlexicon, Lexicon.find?_of_mem he]
    exact ⟨rfl, rfl⟩
  have hwords : ∀ terms ∈ d.alternatives, ∀ t ∈ terms, normalizeWord t.word = t.word ∧
      (lexicon.get? t.word).map Entry.meaning = some (.predicate t.predicate) := by
    have hheap := hget heap (by simp [known])
    have hmound := hget mound (by simp [known])
    exact List.forall_mem_cons.mpr ⟨List.forall_mem_cons.mpr ⟨hmound,
      List.forall_mem_singleton.mpr hheap⟩, List.forall_mem_singleton.mpr
        (List.forall_mem_singleton.mpr hheap)⟩
  have hterms : ∀ terms ∈ d.alternatives, terms ≠ [] :=
    List.forall_mem_cons.mpr ⟨List.cons_ne_nil _ _,
      List.forall_mem_singleton.mpr (List.cons_ne_nil _ _)⟩
  have hnot := (hget not (by simp [known])).2
  have hor := (hget or (by simp [known])).2
  exact ⟨hnot, hor, List.cons_ne_nil _ _, hterms, hwords, by decide +kernel,
    description?_phrase hnot hor (List.cons_ne_nil _ _) hterms hwords world⟩

end Utterance

end Apprentice
