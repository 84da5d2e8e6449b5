import Apprentice.Proofs.Text.Blank
import Apprentice.Proofs.Text.Recomposition
import Apprentice.Proofs.Text.Trim
import Apprentice.Proofs.Text.Uncapitalized
import Apprentice.Utterance.Token

/-!
# The words of tokens

An utterance is cut at its blanks, so there are none in its words, and none in their normal forms.
The normal form of a normal form may be another word, but it does not change any more after that: it
is the canonical form of a text in lower case, and in lower case itself.
-/

namespace Apprentice

theorem normalizeWord_of_unbroken {word : String}
    (hword : ∀ c ∈ word.toList, Text.isBlank c = false) :
    (normalizeWord word).toList = Text.lower (Text.canonical word.toList) := by
  rw [normalizeWord, String.toList_ofList, Text.trim_of_forall hword]

theorem isBlank_of_mem_normalizeWord {word : String}
    (hword : ∀ c ∈ word.toList, Text.isBlank c = false) :
    ∀ c ∈ (normalizeWord word).toList, Text.isBlank c = false := by
  rw [normalizeWord_of_unbroken hword]
  exact Text.isBlank_of_mem_lower (Text.isBlank_of_mem_canonical hword)

/-- Two rounds of normalisation settle a word without blanks. -/
theorem normalizeWord_settled {word : String} (hword : ∀ c ∈ word.toList, Text.isBlank c = false) :
    normalizeWord (normalizeWord (normalizeWord word)) = normalizeWord (normalizeWord word) := by
  have honce := isBlank_of_mem_normalizeWord hword
  have htwice := isBlank_of_mem_normalizeWord honce
  rw [← String.toList_inj, normalizeWord_of_unbroken htwice, normalizeWord_of_unbroken honce,
    normalizeWord_of_unbroken hword, Text.lower_canonical_lower, Text.lower_canonical_lower,
    Text.canonical_canonical]

namespace Utterance

theorem isBlank_of_mem_piecesFrom {offset : Nat} {cs : List Char} :
    ∀ piece ∈ piecesFrom offset cs, ∀ c ∈ piece.2, Text.isBlank c = false := by
  fun_induction piecesFrom offset cs with
  | case1 => exact List.forall_mem_nil _
  | case2 _ _ _ _ ih => exact ih
  | case3 offset c cs hc piece _ ih =>
      refine List.forall_mem_cons.mpr ⟨?_, ih⟩
      refine List.forall_mem_cons.mpr ⟨by simpa using hc, fun d hd => ?_⟩
      simpa [isInnerChar] using List.mem_takeWhile_imp hd

theorem sublist_of_wordOfPiece? {offset : Nat} {piece : List Char} {word : SpannedWord}
    (hword : wordOfPiece? offset piece = some word) : word.surface.toList.Sublist piece := by
  rw [wordOfPiece?] at hword
  split at hword
  next => cases hword
  next =>
    cases hword
    rw [String.toList_ofList]
    refine List.Sublist.trans ?_ (List.dropWhile_sublist fun c => !isWordChar c)
    rw [← List.reverse_sublist, List.reverse_reverse]
    exact List.dropWhile_sublist _

theorem isBlank_of_mem_splitWords {text : String} :
    ∀ word ∈ splitWords text, ∀ c ∈ word.surface.toList, Text.isBlank c = false := by
  intro word hword c hc
  obtain ⟨piece, hpiece, hcore⟩ := List.mem_filterMap.mp hword
  exact isBlank_of_mem_piecesFrom piece hpiece c ((sublist_of_wordOfPiece? hcore).subset hc)

variable {lexicon : Lexicon} {world : World} {previous : Option Token}

def tokenOf (lexicon : Lexicon) (world : World) (previous : Option Token) (w : SpannedWord) :
    Token :=
  ⟨w.surface, normalizeWord w.surface, w.span,
    roleOf lexicon world previous w.surface (normalizeWord w.surface)⟩

theorem tokensAfter_cons {words : List SpannedWord} (w : SpannedWord) :
    tokensAfter lexicon world previous (w :: words) = tokenOf lexicon world previous w ::
      tokensAfter lexicon world (some (tokenOf lexicon world previous w)) words := rfl

theorem exists_tokenOf {t : Token} {words : List SpannedWord}
    (ht : t ∈ tokensAfter lexicon world previous words) :
    ∃ word ∈ words, ∃ before, t = tokenOf lexicon world before word := by
  induction words generalizing previous with
  | nil => cases ht
  | cons word words ih =>
      rw [tokensAfter_cons] at ht
      rcases List.mem_cons.mp ht with rfl | ht
      · exact ⟨word, List.mem_cons_self, previous, rfl⟩
      · obtain ⟨other, hother, htoken⟩ := ih ht
        exact ⟨other, List.mem_cons_of_mem _ hother, htoken⟩

theorem exists_of_mem_tokensAfter {words : List SpannedWord} :
    ∀ t ∈ tokensAfter lexicon world previous words, ∃ word ∈ words,
      t.normalized = normalizeWord word.surface ∧
      ∃ before, t.role = roleOf lexicon world before word.surface t.normalized := by
  intro t ht
  obtain ⟨word, hword, before, rfl⟩ := exists_tokenOf ht
  exact ⟨word, hword, rfl, before, rfl⟩

theorem Token.isUnknown_iff {t : Token} : t.isUnknown = true ↔ t.role = .unknown := by
  rw [Token.isUnknown]
  split
  next hrole => exact ⟨fun _ => hrole, fun _ => rfl⟩
  next hrole => exact ⟨fun hfalse => absurd hfalse Bool.false_ne_true, fun h => absurd h hrole⟩

theorem mem_unknownWords_iff {tokens : List Token} {word : String} :
    word ∈ unknownWords tokens ↔ ∃ t ∈ tokens, t.role = .unknown ∧ t.normalized = word := by
  simp only [unknownWords, List.mem_eraseDups, List.mem_map, List.mem_filter, Token.isUnknown_iff,
    and_assoc]

theorem isBlank_of_mem_tokenize {text : String} :
    ∀ t ∈ tokenize text lexicon world, ∀ c ∈ t.normalized.toList, Text.isBlank c = false := by
  intro t ht
  obtain ⟨word, hword, hnormalized, -⟩ := exists_of_mem_tokensAfter t ht
  rw [hnormalized]
  exact isBlank_of_mem_normalizeWord (isBlank_of_mem_splitWords word hword)

/-- What is so of a word that has a role, besides the token before it. -/
inductive Plays (lexicon : Lexicon) (world : World) (surface normalized : String) : Role → Prop
  | structural : Plays lexicon world surface normalized .structural
  | binding : Plays lexicon world surface normalized .binding
  | entry {e : Entry} (hget : lexicon.get? normalized = some e) :
      Plays lexicon world surface normalized (.entry e)
  | objectName (hnamed : (world.named? surface).isSome) :
      Plays lexicon world surface normalized .objectName
  | number (hnumber : (Text.readInt64? normalized).isSome) :
      Plays lexicon world surface normalized .number
  | unknown (hnew : lexicon.get? normalized = none)
      (hunreserved : structuralWords.contains normalized = false) :
      Plays lexicon world surface normalized .unknown

theorem plays_roleOf (lexicon : Lexicon) (world : World) (previous : Option Token)
    (surface normalized : String) :
    Plays lexicon world surface normalized (roleOf lexicon world previous surface normalized) := by
  rw [roleOf]
  split
  next => exact .structural
  next =>
    split
    next => exact .binding
    next =>
      split
      next hget => exact .entry hget
      next hnew =>
        dsimp only
        split
        next =>
          split
          next hnamed => exact .objectName (Option.isSome_of_any hnamed)
          next => exact .structural
        next hunreserved =>
          split
          next hnamed => exact .objectName hnamed
          next =>
            split
            next hnumber => exact .number hnumber
            next => exact .unknown hnew (Bool.not_eq_true _ ▸ hunreserved)

theorem plays_of_roleOf {surface normalized : String} {role : Role}
    (hrole : roleOf lexicon world previous surface normalized = role) :
    Plays lexicon world surface normalized role :=
  hrole ▸ plays_roleOf lexicon world previous surface normalized

theorem get?_of_roleOf {surface normalized : String} {e : Entry}
    (hrole : roleOf lexicon world previous surface normalized = .entry e) :
    lexicon.get? normalized = some e := by
  cases plays_of_roleOf hrole with
  | entry hget => exact hget

/-- A taught word is found under the normal form of its token, and under its own. -/
theorem get?_of_taughtToken {text : String} {t : Token}
    (ht : t ∈ tokenize text lexicon world) {e : Entry} (hentry : t.entry? = some e) :
    lexicon.get? t.normalized = some e ∧ lexicon.get? e.word = some e := by
  obtain ⟨word, hword, hnormalized, previous, hrole⟩ := exists_of_mem_tokensAfter t ht
  have hget : lexicon.get? t.normalized = some e := by
    unfold Token.entry? at hentry
    split at hentry
    next hentryRole =>
      cases hentry
      exact get?_of_roleOf (hrole.symm.trans hentryRole)
    next => cases hentry
  refine ⟨hget, ?_⟩
  have hkey : e.word = normalizeWord t.normalized := by
    simpa using List.find?_some hget
  have hsettled : normalizeWord e.word = normalizeWord t.normalized := by
    rw [hkey, hnormalized]
    exact normalizeWord_settled (isBlank_of_mem_splitWords word hword)
  rw [Lexicon.get?, hsettled]
  exact hget

end Utterance

end Apprentice
