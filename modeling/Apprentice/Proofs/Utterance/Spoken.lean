import Apprentice.Proofs.Lexicon.NormalForm
import Apprentice.Proofs.Lexicon.Teaching
import Apprentice.Proofs.Lexicon.WordChar
import Apprentice.Proofs.Text.Ends
import Apprentice.Proofs.Utterance.Words

/-!
# Words that can be spoken

A word that was taught is said alone. There are no blanks in it, so the text has one token. Whether
this token has the entry of the word depends on two things that come before the comparison. What is
no character of a word is dropped at the ends of the text as it is typed, before it is composed. And
the normal form of the token is put into normal form once more when it is looked up. What was
dropped does not come back by that: a text and its normal form have equally many parts, so what is
left of the word has another normal form, however often it is put into it.
-/

namespace Apprentice

open Text

variable {lexicon taught : Lexicon} {world : World} {word expression : String}
  {wordType : WordType} {replace : Bool} {outcome : TeachOutcome}
  {cs front back : List Char}

namespace Utterance

/-! ### One piece -/

theorem piecesFrom_append (hfront : ∀ c ∈ front, isBlank c = true) (offset : Nat) (cs : List Char) :
    piecesFrom offset (front ++ cs) = piecesFrom (offset + byteLength front) cs := by
  induction front generalizing offset with
  | nil => rfl
  | cons c front ih =>
      obtain ⟨hc, hfront⟩ := List.forall_mem_cons.mp hfront
      rw [List.cons_append, piecesFrom, if_pos hc, ih hfront, byteLength, Nat.add_assoc]

theorem piecesFrom_of_blank (hback : ∀ c ∈ back, isBlank c = true) (offset : Nat) :
    piecesFrom offset back = [] := by
  have hpieces := piecesFrom_append hback offset []
  rw [List.append_nil] at hpieces
  rw [hpieces, piecesFrom]

theorem piecesFrom_piece (hcs : ∀ c ∈ cs, isBlank c = false) (hsome : cs ≠ [])
    (hback : ∀ c ∈ back.head?, isBlank c = true) (offset : Nat) :
    piecesFrom offset (cs ++ back) = (offset, cs) :: piecesFrom (offset + byteLength cs) back := by
  cases cs with
  | nil => exact absurd rfl hsome
  | cons c cs =>
      obtain ⟨hc, hcs⟩ := List.forall_mem_cons.mp hcs
      have hinner : ∀ d ∈ cs, isInnerChar d = true := fun d hd => by simp [isInnerChar, hcs d hd]
      have hnone : back.takeWhile isInnerChar = [] ∧ back.dropWhile isInnerChar = back := by
        cases back with
        | nil => exact ⟨rfl, rfl⟩
        | cons b back =>
            have hb : isInnerChar b = false := by simp [isInnerChar, hback b rfl]
            simp [hb]
      rw [List.cons_append, piecesFrom, if_neg (by simp [hc])]
      dsimp only
      rw [List.takeWhile_append_of_pos hinner, List.dropWhile_append_of_pos hinner, hnone.1, hnone.2,
        List.append_nil]

theorem piecesFrom_unbroken (hcs : ∀ c ∈ cs, isBlank c = false) (hsome : cs ≠ [])
    (hback : ∀ c ∈ back, isBlank c = true) (offset : Nat) :
    piecesFrom offset (cs ++ back) = [(offset, cs)] := by
  rw [piecesFrom_piece hcs hsome (fun c hc => hback c (List.mem_of_head? hc)),
    piecesFrom_of_blank hback]

/-- What is left of a piece when what is no character of a word is dropped at both ends. -/
def core (piece : List Char) : List Char :=
  strip (fun c => !isWordChar c) piece

theorem wordOfPiece?_of_core (hsome : core cs ≠ []) (offset : Nat) :
    ∃ span, wordOfPiece? offset cs = some ⟨String.ofList (core cs), span⟩ := by
  have hfull : ¬(core cs).isEmpty = true := by simpa using hsome
  exact ⟨_, if_neg hfull⟩

/-- A text without blanks in it, but possibly around it, has the one word that is left of it. -/
theorem splitWords_unbroken (hsplit : word.toList = front ++ cs ++ back)
    (hfront : ∀ c ∈ front, isBlank c = true) (hback : ∀ c ∈ back, isBlank c = true)
    (hcs : ∀ c ∈ cs, isBlank c = false) (hsome : core cs ≠ []) :
    ∃ span, splitWords word = [⟨String.ofList (core cs), span⟩] := by
  have hpiece : cs ≠ [] := by
    rintro rfl
    exact hsome rfl
  obtain ⟨span, hword⟩ := wordOfPiece?_of_core hsome (0 + byteLength front)
  refine ⟨span, ?_⟩
  rw [splitWords, hsplit, List.append_assoc, piecesFrom_append hfront,
    piecesFrom_unbroken hcs hpiece hback]
  exact List.filterMap_cons_some hword

/-! ### One token -/

theorem roleOf_of_get? {previous : Option Token} {surface normalized : String} {e : Entry}
    (hprevious : ∀ t ∈ previous, t.isStructural = false)
    (hget : lexicon.get? normalized = some e) :
    roleOf lexicon world previous surface normalized = .entry e := by
  have hfollows : ∀ word, (previous.any fun t => t.is word) = false := by
    intro word
    cases previous with
    | none => rfl
    | some t => simp [Token.is, hprevious t rfl]
  rw [roleOf, hget]
  simp [hfollows]

/-- Whether a word, as it is typed, begins and ends with characters that words are made of. -/
def Unclipped (word : String) : Prop :=
  (trim word.toList).head?.all isWordChar = true ∧
    (trim word.toList).getLast?.all isWordChar = true

instance (word : String) : Decidable (Unclipped word) :=
  inferInstanceAs (Decidable (_ ∧ _))

theorem unclipped_iff : Unclipped word ↔ core (trim word.toList) = trim word.toList := by
  rw [core, strip_eq_self_iff, Unclipped, Option.all_eq_true, Option.all_eq_true]
  simp only [Bool.not_eq_false', Option.mem_def]

def spoken (word : String) : String :=
  String.ofList (core (trim word.toList))

theorem normalizeWord_spoken (hunclipped : Unclipped word) :
    normalizeWord (spoken word) = normalizeWord word := by
  rw [spoken, unclipped_iff.mp hunclipped, normalizeWord, String.toList_ofList, trim_trim]
  rfl

/-! ### Words that are taught -/

theorem unbroken_of_valid (hvalid : isValidWord (normalizeWord word) = true) :
    ∀ c ∈ trim word.toList, isBlank c = false := by
  obtain ⟨-, hchars⟩ := Bool.and_eq_true_iff.mp hvalid
  rw [normalizeWord, String.toList_ofList] at hchars
  exact isBlank_of_valid (List.all_eq_true.mp hchars)

theorem core_ne_nil_of_valid (hvalid : isValidWord (normalizeWord word) = true) :
    core (trim word.toList) ≠ [] := by
  obtain ⟨hsome, hchars⟩ := Bool.and_eq_true_iff.mp hvalid
  rw [normalizeWord, String.toList_ofList] at hchars
  have hfull : lower (canonical (trim word.toList)) ≠ [] := by
    intro hnil
    rw [normalizeWord, hnil] at hsome
    cases hsome
  obtain ⟨c, hc, hword⟩ := exists_isWordChar_of_valid (List.all_eq_true.mp hchars) hfull
  intro hnil
  have hother := strip_eq_nil_iff.mp hnil c hc
  rw [hword] at hother
  cases hother

theorem tokenize_of_valid (hvalid : isValidWord (normalizeWord word) = true) (lexicon : Lexicon)
    (world : World) :
    ∃ t, tokenize word lexicon world = [t] ∧ t.normalized = normalizeWord (spoken word) ∧
      t.role = roleOf lexicon world none t.surface t.normalized := by
  obtain ⟨front, back, hsplit, hfront, hback⟩ := exists_strip isBlank word.toList
  obtain ⟨span, hwords⟩ := splitWords_unbroken hsplit hfront hback (unbroken_of_valid hvalid)
    (core_ne_nil_of_valid hvalid)
  refine ⟨⟨spoken word, normalizeWord (spoken word), span,
    roleOf lexicon world none (spoken word) (normalizeWord (spoken word))⟩, ?_, rfl, rfl⟩
  change splitWords word = [⟨spoken word, span⟩] at hwords
  rw [tokenize, hwords, tokensAfter, tokensAfter]

/-- Nothing was dropped from a word, if what is left becomes the same as the word. -/
theorem unclipped_of_same (hvalid : isValidWord (normalizeWord word) = true)
    (hsame : normalizeWord (normalizeWord (spoken word)) = normalizeWord word) :
    Unclipped word := by
  have hword := unbroken_of_valid hvalid
  have hspoken : ∀ c ∈ (spoken word).toList, isBlank c = false := by
    rw [spoken, String.toList_ofList]
    exact fun c hc => hword c ((strip_sublist _ _).subset hc)
  have hchars : lower (canonical (lower (canonical (core (trim word.toList))))) =
      lower (canonical (trim word.toList)) := by
    rwa [← String.toList_inj, normalizeWord_of_unbroken (isBlank_of_mem_normalizeWord hspoken),
      normalizeWord_of_unbroken hspoken, normalizeWord, spoken, String.toList_ofList,
      String.toList_ofList] at hsame
  -- no round of normalisation changes the number of the parts
  have hcount := fun cs => fits_wordKind.1.length_parts cs
  have hlength : (parts (trim word.toList)).length =
      (parts (core (trim word.toList))).length := by
    rw [← hcount (trim word.toList), ← hchars, hcount, hcount]
  rw [unclipped_iff]
  generalize trim word.toList = cs at hlength ⊢
  obtain ⟨front, back, hsplit, -⟩ := exists_strip (fun c => !isWordChar c) cs
  change cs = front ++ core cs ++ back at hsplit
  generalize core cs = kept at hsplit hlength ⊢
  subst hsplit
  obtain ⟨rfl, rfl⟩ := eq_nil_of_length_parts hlength
  simp

/-- The word has its entry as its role exactly if nothing was dropped from it, and its normal form
is what it is looked up under. -/
theorem roleOf_spoken_iff {e : Entry} (hvalid : isValidWord (normalizeWord word) = true)
    (hget : lexicon.get? word = some e) (surface : String) :
    roleOf lexicon world none surface (normalizeWord (spoken word)) = .entry e ↔
      Unclipped word ∧ normalizeWord (normalizeWord word) = normalizeWord word := by
  constructor
  · intro hrole
    have hsame : normalizeWord (normalizeWord (spoken word)) = normalizeWord word := by
      rw [← (Lexicon.mem_of_get? (get?_of_roleOf hrole)).2, (Lexicon.mem_of_get? hget).2]
    have hunclipped := unclipped_of_same hvalid hsame
    rw [normalizeWord_spoken hunclipped] at hsame
    exact ⟨hunclipped, hsame⟩
  · rintro ⟨hunclipped, hstable⟩
    refine roleOf_of_get? nofun ?_
    rw [normalizeWord_spoken hunclipped, Lexicon.get?, hstable]
    exact hget

variable (hteach : lexicon.teach word wordType expression replace = .ok (outcome, taught))

include hteach

/-- A word that was taught is one token when it is said alone. The token has the entry of the word
exactly if the word begins and ends with characters of words, and its normal form is a normal form
again. -/
theorem spoken_iff (world : World) :
    ∃ t e, tokenize word taught world = [t] ∧ taught.get? word = some e ∧
      e.wordType = wordType ∧ e.expression = Text.trimmed expression ∧
      (t.role = .entry e ↔
        Unclipped word ∧ normalizeWord (normalizeWord word) = normalizeWord word) := by
  obtain ⟨hvalid, -⟩ := Lexicon.valid_of_teach hteach
  obtain ⟨e, hget, hanswers⟩ := (Lexicon.learns_of_teach
    ⟨word, wordType, expression, replace⟩ hteach).exists_answer
  obtain ⟨t, htokens, hnormalized, hrole⟩ := tokenize_of_valid hvalid taught world
  refine ⟨t, e, htokens, hget, hanswers.wordType, hanswers.expression, ?_⟩
  rw [hrole, hnormalized, roleOf_spoken_iff hvalid hget]

omit hteach in
/-- Twice an e with an acute accent, once in two characters. -/
theorem spoken_iff_summer :
    let summer : Entry := ⟨"\u00e9t\u00e9", .social, "hot", .text "hot"⟩
    let word := " E\u0301t\u00c9 "
    Lexicon.empty.teach word .social "hot" false = .ok (.learned, ⟨[summer], by decide⟩) ∧
      ∃ t e, tokenize word ⟨[summer], by decide⟩ (World.new 2 1) = [t] ∧
        Lexicon.get? ⟨[summer], by decide⟩ word = some e ∧ e.wordType = .social ∧
        e.expression = Text.trimmed "hot" ∧ t.role = .entry e := by
  intro summer word
  have hcompiled : Meaning.compile "\u00e9t\u00e9" .social "hot" = .ok (.text "hot") := by
    rw [Meaning.compile, show Text.trimmed "hot" = "hot" by decide +kernel, Meaning.ofTrimmed.eq_def]
    rfl
  have htaught : summer.Taught word :=
    ⟨by decide +kernel, by decide +kernel, by decide +kernel, by decide +kernel, hcompiled⟩
  have hteach : Lexicon.empty.teach word .social "hot" false =
      .ok (.learned, Lexicon.empty.insert summer) :=
    Lexicon.teach_of_new htaught rfl (by decide +kernel) rfl
  obtain ⟨t, e, htokens, hget, htype, hexpression, hrole⟩ := spoken_iff hteach (World.new 2 1)
  exact ⟨hteach, t, e, htokens, hget, htype, hexpression, hrole.mpr (by decide +kernel)⟩

/-- An accent of its own is dropped at the end of a word, though it belongs to the word. -/
example : isValidWord (normalizeWord "cafe\u0301") = true ∧ ¬Unclipped "cafe\u0301" ∧
    spoken "cafe\u0301" = "cafe" := by
  decide +kernel

theorem role_of_ascii (hascii : ∀ c ∈ word.toList, isAscii c = true) (world : World) :
    ∃ t e, tokenize word taught world = [t] ∧ t.role = .entry e ∧ e.wordType = wordType ∧
      e.expression = Text.trimmed expression := by
  obtain ⟨hvalid, -⟩ := Lexicon.valid_of_teach hteach
  obtain ⟨e, hget, hanswers⟩ := (Lexicon.learns_of_teach
    ⟨word, wordType, expression, replace⟩ hteach).exists_answer
  obtain ⟨t, htokens, hnormalized, hrole⟩ := tokenize_of_valid hvalid taught world
  refine ⟨t, e, htokens, ?_, hanswers.wordType, hanswers.expression⟩
  have htrim : ∀ c ∈ trim word.toList, isAscii c = true := fun c hc =>
    hascii c ((trim_sublist word.toList).subset hc)
  have hchars : ∀ c ∈ trim word.toList, isWordChar c = true := by
    intro c hc
    have hall := (Bool.and_eq_true_iff.mp hvalid).2
    rw [normalizeWord, String.toList_ofList, canonical_of_ascii htrim, lower,
      lowerAfter_of_ascii htrim, List.all_map, List.all_eq_true] at hall
    have hlower := fits_wordKind.1.1 c.toNat (of_decide_eq_true (htrim c hc))
    rw [Char.ofNat_toNat] at hlower
    rw [isWordChar_eq_wordKind, ← hlower, ← isWordChar_eq_wordKind]
    exact hall c hc
  have hunclipped : Unclipped word :=
    ⟨(Option.all_eq_true _ _).mpr fun c hc => hchars c (List.mem_of_mem_head? hc),
      (Option.all_eq_true _ _).mpr fun c hc => hchars c (List.mem_of_mem_getLast? hc)⟩
  have hplain := normalizeWord_ascii hascii
  have hstable : normalizeWord (normalizeWord word) = normalizeWord word :=
    normalizeWord_of_plain hvalid (fun c hc => (hplain c hc).1) fun c hc => (hplain c hc).2
  rw [hrole, hnormalized]
  exact (roleOf_spoken_iff hvalid hget t.surface).mpr ⟨hunclipped, hstable⟩

end Utterance

end Apprentice
