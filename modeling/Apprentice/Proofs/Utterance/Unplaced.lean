import Apprentice.Proofs.Utterance.Grown
import Apprentice.Proofs.Utterance.Phrase
import Apprentice.Proofs.Utterance.Recast

/-!
# Words without their places

The readers do not notice where the words of an utterance stand, so a stretch of words asks for the
same wherever it stands in a text. The role of a word does not depend on its place either, but it
may depend on the word before it, if that is one of the command grammar. So the tokens of texts that
are joined by a blank are those of the texts, unless such a word stands where they meet.
-/

namespace Apprentice.Utterance

open Text

variable {lexicon : Lexicon} {world : World} {previous next : Option Token} {b : Char}

/-- The token as if it stood at the start of a text. -/
def Token.unplaced (t : Token) : Token :=
  { t with span := ⟨0, 0⟩ }

/-- To forget places is a change that readers do not notice. -/
def Recast.unplaced : Recast where
  span _ := ⟨0, 0⟩
  type_iff _ _ _ := Iff.rfl

namespace Recast

theorem meaning_unplaced : unplaced.meaning = id := by
  funext meaning
  cases meaning <;> rfl

theorem token_unplaced : unplaced.token = Token.unplaced := by
  funext t
  rcases t with ⟨surface, normalized, span, role⟩
  cases role with
  | entry e =>
      rw [token, role, entry, meaning_unplaced]
      rfl
  | _ => rfl

theorem description_unplaced : unplaced.description = id := by
  have hterm : unplaced.term = id := rfl
  funext d
  simp only [description, hterm, List.map_id, List.map_id']
  rfl

theorem target_unplaced : unplaced.target = id := by
  funext target
  cases target with
  | named name => rfl
  | matching d => exact congrArg Target.matching (congrFun description_unplaced d)

theorem action_unplaced : unplaced.action = id := by
  funext a
  induction a with
  | query d definition =>
      rw [action, description_unplaced]
      exact congrArg (Action.query d) Option.map_id'
  | conditionalExecution check negated command hcheck hcommand =>
      rw [action, hcheck, hcommand]
      rfl
  | hypotheticalQuery check supposition hcheck =>
      rw [action, hcheck]
      rfl
  | take | give | destroy | put | locate | queryOwner =>
      simp only [action, target_unplaced, id]
  | create | verifyProperty | verifyPossession | verifyExistence =>
      simp only [action, description_unplaced, id]
  | _ => rfl

end Recast

theorem content_unplaced (tokens : List Token) :
    content (tokens.map Token.unplaced) = (content tokens).map Token.unplaced :=
  Recast.token_unplaced ▸ content_recast .unplaced tokens

theorem unknownWords_unplaced (tokens : List Token) :
    unknownWords (tokens.map Token.unplaced) = unknownWords tokens :=
  Recast.token_unplaced ▸ unknownWords_recast .unplaced tokens

theorem command?_unplaced (tokens : List Token) :
    command? (tokens.map Token.unplaced) = command? tokens := by
  have hcommand := command?_recast .unplaced tokens
  rwa [Recast.token_unplaced, Recast.action_unplaced, Option.map_id] at hcommand

/-! ### The words of a text -/

/-- Cutting goes on at a blank as at the start of a text. -/
theorem piecesFrom_append_blank (hb : isBlank b = true) (front back : List Char) (offset : Nat) :
    ∃ later, piecesFrom offset (front ++ b :: back) =
      piecesFrom offset front ++ piecesFrom later back := by
  have hinner : isInnerChar b = false := by simp [isInnerChar, hb]
  fun_induction piecesFrom offset front with
  | case1 offset => exact ⟨offset + b.utf8Size, by rw [List.nil_append, piecesFrom, if_pos hb]; rfl⟩
  | case2 offset c cs hc ih =>
      obtain ⟨later, hlater⟩ := ih
      exact ⟨later, by rw [List.cons_append, piecesFrom, if_pos hc, hlater]⟩
  | case3 offset c cs hc piece _ ih =>
      obtain ⟨later, hlater⟩ := ih
      have htake : (cs ++ b :: back).takeWhile isInnerChar = cs.takeWhile isInnerChar := by
        rw [List.takeWhile_append]
        split
        next hall => simp [hinner, (List.takeWhile_prefix _).eq_of_length hall]
        next => rfl
      have hdrop : (cs ++ b :: back).dropWhile isInnerChar =
          cs.dropWhile isInnerChar ++ b :: back := by
        rw [List.dropWhile_append]
        split
        next hnil => simp [hinner, List.isEmpty_iff.mp hnil]
        next => rfl
      refine ⟨later, ?_⟩
      rw [List.cons_append, piecesFrom, if_neg hc]
      dsimp only
      rw [htake, hdrop, hlater]
      rfl

theorem map_snd_piecesFrom (offset later : Nat) (cs : List Char) :
    (piecesFrom offset cs).map Prod.snd = (piecesFrom later cs).map Prod.snd := by
  fun_induction piecesFrom offset cs generalizing later with
  | case1 => rw [piecesFrom]
  | case2 offset c cs hc ih => rw [piecesFrom, if_pos hc, ih]
  | case3 offset c cs hc piece _ ih =>
      rw [piecesFrom, if_neg hc]
      exact congrArg (piece :: ·) (ih _)

theorem surfacesFrom_eq (offset : Nat) (cs : List Char) :
    surfacesFrom offset cs = ((piecesFrom offset cs).map Prod.snd).filterMap fun piece =>
      (wordOfPiece? 0 piece).map SpannedWord.surface := by
  have hsame : ∀ offset piece, (wordOfPiece? offset piece).map SpannedWord.surface =
      (wordOfPiece? 0 piece).map SpannedWord.surface := by
    intro offset piece
    simp only [wordOfPiece?]
    split <;> rfl
  rw [surfacesFrom, List.map_filterMap, List.filterMap_map]
  exact List.filterMap_congr fun piece _ => hsame piece.1 piece.2

theorem surfacesFrom_offset (offset later : Nat) (cs : List Char) :
    surfacesFrom offset cs = surfacesFrom later cs := by
  rw [surfacesFrom_eq, surfacesFrom_eq, map_snd_piecesFrom]

/-- The words of a text, as they are typed. -/
def surfaces (text : String) : List String :=
  surfacesFrom 0 text.toList

theorem surfaces_join (front back : String) :
    surfaces (front ++ " " ++ back) = surfaces front ++ surfaces back := by
  obtain ⟨later, hpieces⟩ :=
    piecesFrom_append_blank (b := ' ') (by decide) front.toList back.toList 0
  have htext : (front ++ " " ++ back).toList = front.toList ++ ' ' :: back.toList := by
    simp
  rw [surfaces, htext, surfacesFrom, hpieces, List.filterMap_append, List.map_append]
  exact congrArg (surfaces front ++ ·) (surfacesFrom_offset later 0 back.toList)

theorem surfaces_word {word : String} (hvalid : isValidWord word = true) :
    surfaces word = [word] := by
  have hwords := surfacesFrom_intercalate (List.forall_mem_singleton.mpr hvalid) 0
  rwa [String.intercalate_singleton] at hwords

/-! ### Their tokens -/

/-- The tokens of words that follow a token, without the places of the words. -/
def tokensOf (lexicon : Lexicon) (world : World) (previous : Option Token) (words : List String) :
    List Token :=
  tokensAfter lexicon world previous (words.map fun word => ⟨word, ⟨0, 0⟩⟩)

theorem tokensAfter_unplaced (hsame : SameGrammar previous next) (words : List SpannedWord) :
    (tokensAfter lexicon world previous words).map Token.unplaced =
      tokensOf lexicon world next (words.map SpannedWord.surface) := by
  induction words generalizing previous next with
  | nil => rfl
  | cons w words ih =>
      have hrole : roleOf lexicon world previous w.surface (normalizeWord w.surface) =
          roleOf lexicon world next w.surface (normalizeWord w.surface) :=
        (roleOf_of_sameGrammar hsame).symm
      rw [tokensAfter_cons, List.map_cons, tokensOf, List.map_cons, List.map_cons, tokensAfter_cons,
        tokenOf, hrole]
      refine congrArg (_ :: ·) (ih fun word => ?_)
      rfl

theorem tokenize_unplaced (text : String) (lexicon : Lexicon) (world : World) :
    (tokenize text lexicon world).map Token.unplaced =
      tokensOf lexicon world none (surfaces text) :=
  tokensAfter_unplaced (fun _ => rfl) (splitWords text)

theorem tokensOf_of_sameGrammar (hsame : SameGrammar previous next) (words : List String) :
    tokensOf lexicon world next words = tokensOf lexicon world previous words := by
  have hsurfaces : words = (words.map fun word => (⟨word, ⟨0, 0⟩⟩ : SpannedWord)).map
      SpannedWord.surface := by simp [Function.comp_def]
  rw [hsurfaces, ← tokensAfter_unplaced hsame, tokensAfter_unplaced fun _ => rfl]

theorem tokensOf_cons (word : String) (words : List String) :
    tokensOf lexicon world previous (word :: words) =
      tokenOf lexicon world previous ⟨word, ⟨0, 0⟩⟩ ::
        tokensOf lexicon world (some (tokenOf lexicon world previous ⟨word, ⟨0, 0⟩⟩)) words := rfl

theorem tokensOf_append (words more : List String) :
    tokensOf lexicon world previous (words ++ more) = tokensOf lexicon world previous words ++
      tokensOf lexicon world ((tokensOf lexicon world previous words).getLast?.or previous)
        more := by
  induction words generalizing previous with
  | nil => rfl
  | cons word words ih =>
      rw [List.cons_append, tokensOf_cons, tokensOf_cons, ih, List.getLast?_cons, List.cons_append]
      cases (tokensOf lexicon world (some (tokenOf lexicon world previous ⟨word, ⟨0, 0⟩⟩))
        words).getLast? <;> rfl

theorem roleOf_known {surface normalized : String} {e : Entry}
    (has : (previous.any fun t => t.is "as") = false) (hkind : namesWordTypes normalized = false)
    (hget : lexicon.get? normalized = some e) :
    roleOf lexicon world previous surface normalized = .entry e := by
  rw [roleOf, hget, hkind]
  simp [has]

theorem tokensOf_known {word : String} {e : Entry}
    (has : (previous.any fun t => t.is "as") = false) (hkind : namesWordTypes word = false)
    (hnormal : normalizeWord word = word) (hget : lexicon.get? word = some e)
    (words : List String) :
    tokensOf lexicon world previous (word :: words) =
      ⟨word, word, ⟨0, 0⟩, .entry e⟩ :: tokensOf lexicon world none words := by
  have htoken : tokenOf lexicon world previous ⟨word, ⟨0, 0⟩⟩ =
      ⟨word, word, ⟨0, 0⟩, .entry e⟩ := by
    rw [tokenOf, hnormal, roleOf_known has hkind hget]
  have hsame : SameGrammar none (some ⟨word, word, ⟨0, 0⟩, .entry e⟩) := fun _ => rfl
  rw [tokensOf_cons, htoken, tokensOf_of_sameGrammar hsame]

end Apprentice.Utterance
