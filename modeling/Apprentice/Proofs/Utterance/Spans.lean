import Apprentice.Proofs.Text.ByteLength
import Apprentice.Proofs.Utterance.Spoken

/-!
# Where the words of an utterance stand

The words of an utterance lie in its text one behind the other, each where its span says, and around
them is only what no word is made of. The places need not be counted for this. Between two pieces
there are blanks only, and no piece begins with a blank, so a piece that is searched for behind the
one before it is first met where it stands.
-/

namespace Apprentice.Utterance

open Text

variable {offset : Nat} {cs gap piece rest : List Char} {words : List SpannedWord}

/-! ### How words lie in a text -/

/-- Whether a text is a word that was cut out of an utterance. -/
structure IsWord (word : List Char) : Prop where
  unbroken : ∀ c ∈ word, isBlank c = false
  starts : ∃ c, word.head? = some c ∧ isWordChar c = true
  ends : ∃ c, word.getLast? = some c ∧ isWordChar c = true

/-- How words lie in a text that starts at an offset. In front of each word and behind the last one
there is only what no word is made of, and no word is cut off in front of more of it. -/
inductive Laid : Nat → List Char → List SpannedWord → Prop
  | none {offset : Nat} {gap : List Char} (hgap : ∀ c ∈ gap, isWordChar c = false) :
      Laid offset gap []
  | word {offset : Nat} {gap word rest : List Char} {words : List SpannedWord}
      (hgap : ∀ c ∈ gap, isWordChar c = false) (hword : IsWord word)
      (hclear : ∀ c ∈ rest.head?, isWordChar c = false)
      (hrest : Laid (offset + byteLength gap + byteLength word) rest words) :
      Laid offset (gap ++ word ++ rest)
        (⟨String.ofList word,
          ⟨offset + byteLength gap, offset + byteLength gap + byteLength word⟩⟩ :: words)

theorem IsWord.ne_nil (hword : IsWord cs) : cs ≠ [] := by
  rintro rfl
  obtain ⟨c, hc, -⟩ := hword.starts
  cases hc

theorem isWordChar_of_isBlank {c : Char} (hc : isBlank c = true) : isWordChar c = false := by
  rw [Bool.eq_false_iff]
  intro hword
  cases hc.symm.trans (isBlank_of_isWordChar hword)

theorem Laid.behind (hgap : ∀ c ∈ gap, isWordChar c = false)
    (hlaid : Laid (offset + byteLength gap) cs words) : Laid offset (gap ++ cs) words := by
  cases hlaid with
  | none hrest => exact .none (List.forall_mem_append.mpr ⟨hgap, hrest⟩)
  | @word _ more word rest words hmore hword hclear hrest =>
      have hstart : offset + byteLength gap + byteLength more =
          offset + byteLength (gap ++ more) := by
        rw [byteLength_append, Nat.add_assoc]
      rw [hstart] at hrest ⊢
      rw [← List.append_assoc, ← List.append_assoc]
      exact .word (List.forall_mem_append.mpr ⟨hgap, hmore⟩) hword hclear hrest

/-! ### One piece -/

/-- A piece is its word with what is dropped in front of it and behind it, and the word has its
place behind what is dropped in front. -/
theorem exists_core (piece : List Char) : ∃ front back, piece = front ++ core piece ++ back ∧
    (∀ c ∈ front, isWordChar c = false) ∧ (∀ c ∈ back, isWordChar c = false) ∧
    ∀ offset, wordOfPiece? offset piece =
      if core piece = [] then none
      else some ⟨String.ofList (core piece), ⟨offset + byteLength front,
        offset + byteLength front + byteLength (core piece)⟩⟩ := by
  refine ⟨piece.takeWhile fun c => !isWordChar c,
    (piece.dropWhile fun c => !isWordChar c).rtakeWhile fun c => !isWordChar c, ?_,
    fun c hc => by simpa using List.mem_takeWhile_imp hc,
    fun c hc => by simpa using List.mem_rtakeWhile_imp hc, fun offset => ?_⟩
  · rw [core, strip, List.append_assoc, List.rdropWhile_append_rtakeWhile,
      List.takeWhile_append_dropWhile]
  · simp only [← List.isEmpty_iff]
    rfl

theorem isWord_core (hpiece : ∀ c ∈ piece, isBlank c = false) (hsome : core piece ≠ []) :
    IsWord (core piece) := by
  have hself : strip (fun c => !isWordChar c) (core piece) = core piece := strip_strip _ piece
  obtain ⟨hstart, hend⟩ := strip_eq_self_iff.mp hself
  refine ⟨fun c hc => hpiece c ((strip_sublist _ piece).subset hc), ?_, ?_⟩
  · have hhead := List.head?_eq_some_head hsome
    exact ⟨_, hhead, by simpa using hstart _ hhead⟩
  · have hlast := List.getLast?_eq_some_getLast hsome
    exact ⟨_, hlast, by simpa using hend _ hlast⟩

theorem Laid.cons_piece (hpiece : ∀ c ∈ piece, isBlank c = false)
    (hclear : ∀ c ∈ rest.head?, isWordChar c = false)
    (hrest : Laid (offset + byteLength piece) rest words) :
    Laid offset (piece ++ rest) ((wordOfPiece? offset piece).toList ++ words) := by
  obtain ⟨front, back, hsplit, hfront, hback, hword⟩ := exists_core piece
  rw [hword]
  by_cases hnone : core piece = []
  · rw [if_pos hnone]
    refine hrest.behind ?_
    rw [hsplit, hnone, List.append_nil]
    exact List.forall_mem_append.mpr ⟨hfront, hback⟩
  · have hcore := isWord_core hpiece hnone
    rw [if_neg hnone]
    generalize core piece = word at hsplit hcore
    subst hsplit
    rw [byteLength_append, byteLength_append, ← Nat.add_assoc, ← Nat.add_assoc] at hrest
    rw [List.append_assoc (front ++ word)]
    refine .word hfront hcore ?_ (hrest.behind hback)
    -- what follows the word was dropped, or else it is what follows the piece
    cases back with
    | nil => exact hclear
    | cons c back => exact fun d hd => hback d (Option.some.inj hd ▸ List.mem_cons_self)

theorem piece_append {c : Char} (hc : ¬isBlank c = true) (cs : List Char) :
    c :: cs = (c :: cs.takeWhile isInnerChar) ++ cs.dropWhile isInnerChar ∧
      (∀ d ∈ c :: cs.takeWhile isInnerChar, isBlank d = false) ∧
      ∀ d ∈ (cs.dropWhile isInnerChar).head?, isBlank d = true := by
  refine ⟨?_, List.forall_mem_cons.mpr ⟨by simpa using hc, fun d hd => ?_⟩, fun d hd => ?_⟩
  · rw [List.cons_append, List.takeWhile_append_dropWhile]
  · simpa [isInnerChar] using List.mem_takeWhile_imp hd
  · have hstopped := List.head?_dropWhile_not isInnerChar cs
    rw [Option.mem_def.mp hd] at hstopped
    simpa [isInnerChar] using hstopped

/-- The words that a text is cut into lie in it. -/
theorem laid_piecesFrom (offset : Nat) (cs : List Char) :
    Laid offset cs ((piecesFrom offset cs).filterMap fun (offset, piece) =>
      wordOfPiece? offset piece) := by
  fun_induction piecesFrom offset cs with
  | case1 => exact .none (List.forall_mem_nil _)
  | case2 offset c cs hc ih =>
      have hgap : ∀ d ∈ [c], isWordChar d = false :=
        List.forall_mem_singleton.mpr (isWordChar_of_isBlank hc)
      have hrest : Laid (offset + byteLength [c]) cs _ := ih
      exact hrest.behind hgap
  | case3 offset c cs hc piece _ ih =>
      obtain ⟨hsplit, hpiece, hrest⟩ := piece_append hc cs
      have hlaid := Laid.cons_piece hpiece (fun d hd => isWordChar_of_isBlank (hrest d hd)) ih
      rw [← hsplit] at hlaid
      rw [List.filterMap_cons]
      change Laid offset (c :: cs) ((wordOfPiece? offset piece).toList ++ _) at hlaid
      cases hword : wordOfPiece? offset piece with
      | none => simpa [hword] using hlaid
      | some word => simpa [hword] using hlaid

/-! ### Places -/

/-- A word stands where its span says. -/
theorem Laid.exists_place (hlaid : Laid offset cs words) : ∀ w ∈ words, ∃ before after,
    cs = before ++ w.surface.toList ++ after ∧ IsWord w.surface.toList ∧
      w.span.start = offset + byteLength before ∧
      w.span.stop = w.span.start + byteLength w.surface.toList := by
  induction hlaid with
  | none => exact List.forall_mem_nil _
  | @word offset gap word rest words _ hword _ _ ih =>
      refine List.forall_mem_cons.mpr ⟨?_, fun w hw => ?_⟩
      · rw [String.toList_ofList]
        exact ⟨gap, rest, rfl, hword, rfl, rfl⟩
      · obtain ⟨before, after, hsplit, hisWord, hstart, hstop⟩ := ih w hw
        refine ⟨gap ++ word ++ before, after, ?_, hisWord, ?_, hstop⟩
        · rw [hsplit]
          simp only [List.append_assoc]
        · rw [hstart, byteLength_append, byteLength_append]
          omega

/-- Words stand one behind the other, with something in between. -/
theorem Laid.ordered (hlaid : Laid offset cs words) :
    words.Pairwise fun v w => v.span.stop < w.span.start := by
  induction hlaid with
  | none => exact .nil
  | @word offset gap word rest words _ _ hclear hrest ih =>
      refine List.pairwise_cons.mpr ⟨fun w hw => ?_, ih⟩
      obtain ⟨before, after, hsplit, hisWord, hstart, -⟩ := hrest.exists_place w hw
      rw [hstart]
      refine Nat.lt_add_of_pos_right (byteLength_pos ?_)
      -- a word at the very start would be more of the word in front
      rintro rfl
      obtain ⟨c, hc, hchar⟩ := hisWord.starts
      have hhead : c ∈ rest.head? := by
        rw [hsplit, List.nil_append, List.head?_append, hc]
        rfl
      rw [hclear c hhead] at hchar
      cases hchar

theorem cons_of_append {front back before after : List Char} {c : Char}
    (hsplit : front ++ back = before ++ c :: after) :
    (∃ inner, front = before ++ c :: inner) ∨
      ∃ inner, before = front ++ inner ∧ back = inner ++ c :: after := by
  rcases List.append_eq_append_iff.mp hsplit with ⟨inner, hbefore, hback⟩ | ⟨inner, hfront, hafter⟩
  · exact .inr ⟨inner, hbefore, hback⟩
  · cases inner with
    | nil => exact .inr ⟨[], by simpa using hfront.symm, hafter.symm⟩
    | cons d inner =>
        obtain ⟨rfl, -⟩ := List.cons.inj hafter
        exact .inl ⟨inner, hfront⟩

/-- Every character that words are made of lies in a word. -/
theorem Laid.exists_covering (hlaid : Laid offset cs words) {before after : List Char} {c : Char}
    (hsplit : cs = before ++ c :: after) (hc : isWordChar c = true) :
    ∃ w ∈ words, w.span.start ≤ offset + byteLength before ∧
      offset + byteLength before + c.utf8Size ≤ w.span.stop := by
  induction hlaid generalizing before with
  | none hgap =>
      rw [hgap c (hsplit ▸ List.mem_append_right _ List.mem_cons_self)] at hc
      cases hc
  | @word offset gap word rest words hgap _ _ _ ih =>
      rw [List.append_assoc] at hsplit
      rcases cons_of_append hsplit with ⟨inner, hin⟩ | ⟨inner, rfl, hbehind⟩
      · rw [hgap c (hin ▸ List.mem_append_right _ List.mem_cons_self)] at hc
        cases hc
      · rcases cons_of_append hbehind with ⟨inside, rfl⟩ | ⟨later, rfl, hrest⟩
        · refine ⟨_, List.mem_cons_self, ?_⟩
          simp only [byteLength_append, byteLength]
          omega
        · obtain ⟨w, hw, hstart, hstop⟩ := ih hrest
          refine ⟨w, List.mem_cons_of_mem _ hw, ?_⟩
          simp only [byteLength_append]
          omega

/-! ### Searching for the pieces -/

/-- Where a piece occurs first in a text, in bytes, with the text behind it. -/
def occurrence? (piece : List Char) : List Char → Option (Nat × List Char)
  | [] => if piece.isEmpty then some (0, []) else none
  | c :: cs =>
    if piece.isPrefixOf (c :: cs) then some (0, (c :: cs).drop piece.length)
    else (occurrence? piece cs).map fun (place, rest) => (c.utf8Size + place, rest)

/-- The pieces with the places where they are found one after the other, each of them behind the one
before it, in a text that starts at an offset. -/
def search? (offset : Nat) (cs : List Char) : List (List Char) → Option (List (Nat × List Char))
  | [] => some []
  | piece :: pieces => do
    let (place, rest) ← occurrence? piece cs
    let found ← search? (offset + place + byteLength piece) rest pieces
    return (offset + place, piece) :: found

def pieces (cs : List Char) : List (List Char) :=
  (cs.splitOnP isBlank).filter fun piece => !piece.isEmpty

theorem occurrence?_of_blanks (hgap : ∀ c ∈ gap, isBlank c = true)
    (hpiece : ∃ c ∈ piece.head?, isBlank c = false) (rest : List Char) :
    occurrence? piece (gap ++ piece ++ rest) = some (byteLength gap, rest) := by
  obtain ⟨d, hd, hsolid⟩ := hpiece
  obtain ⟨ds, rfl⟩ := List.head?_eq_some_iff.mp hd
  induction gap with
  | nil =>
      have hprefix : (d :: ds).isPrefixOf (d :: ds ++ rest) = true :=
        List.isPrefixOf_iff_prefix.mpr (List.prefix_append _ _)
      rw [List.nil_append, List.cons_append, occurrence?, ← List.cons_append, if_pos hprefix,
        List.drop_left]
      rfl
  | cons c gap ih =>
      obtain ⟨hc, hgap⟩ := List.forall_mem_cons.mp hgap
      have hapart : (d :: ds).isPrefixOf (c :: (gap ++ d :: ds ++ rest)) = false := by
        have hne : (d == c) = false := beq_eq_false_iff_ne.mpr fun heq => by
          rw [heq, hc] at hsolid
          cases hsolid
        rw [List.isPrefixOf, hne, Bool.false_and]
      rw [List.cons_append, List.cons_append, occurrence?, hapart, if_neg Bool.false_ne_true,
        ih hgap]
      rfl

theorem pieces_cons_of_blank {c : Char} (hc : isBlank c = true) (cs : List Char) :
    pieces (c :: cs) = pieces cs := by
  rw [pieces, List.splitOnP_cons_eq_if_modifyHead, if_pos hc]
  rfl

theorem pieces_append (hpiece : ∀ c ∈ piece, isBlank c = false) (hsome : piece ≠ [])
    (hrest : ∀ c ∈ rest.head?, isBlank c = true) :
    pieces (piece ++ rest) = piece :: pieces rest := by
  have hkept : ∀ others : List (List Char), (piece :: others).filter (fun p => !p.isEmpty) =
      piece :: others.filter fun p => !p.isEmpty := fun _ =>
    List.filter_cons_of_pos (by simpa using hsome)
  cases rest with
  | nil =>
      rw [List.append_nil, pieces, List.splitOnP_eq_singleton hpiece, hkept]
      rfl
  | cons c rest =>
      have hc : isBlank c = true := hrest c rfl
      rw [pieces_cons_of_blank hc, pieces,
        List.splitOnP_append_cons_of_forall_mem hpiece c hc, hkept]
      rfl

/-- Searching for the pieces finds each of them where it was cut out. -/
theorem search?_pieces (offset : Nat) (cs : List Char) : ∀ gap start,
    (∀ c ∈ gap, isBlank c = true) → offset = start + byteLength gap →
      search? start (gap ++ cs) (pieces cs) = some (piecesFrom offset cs) := by
  -- the blanks since the last piece are passed by again when the next one is searched for
  fun_induction piecesFrom offset cs with
  | case1 => exact fun _ _ _ _ => rfl
  | case2 offset c cs hc ih =>
      intro gap start hgap hoffset
      have hmore : ∀ d ∈ gap ++ [c], isBlank d = true :=
        List.forall_mem_append.mpr ⟨hgap, List.forall_mem_singleton.mpr hc⟩
      have hfound := ih (gap ++ [c]) start hmore (by
        rw [byteLength_append, byteLength, byteLength]
        omega)
      rw [List.append_assoc, List.singleton_append] at hfound
      rw [pieces_cons_of_blank hc, hfound]
  | case3 offset c cs hc piece _ ih =>
      intro gap start hgap hoffset
      obtain ⟨hsplit, hpiece, hrest⟩ := piece_append hc cs
      have hhead : ∃ d ∈ piece.head?, isBlank d = false := ⟨c, rfl, by simpa using hc⟩
      have hnext := ih [] (offset + byteLength piece) (List.forall_mem_nil _) rfl
      rw [hsplit, pieces_append hpiece (List.cons_ne_nil _ _) hrest, search?, ← List.append_assoc,
        occurrence?_of_blanks hgap hhead, Option.bind_eq_bind, Option.bind_some]
      dsimp only
      rw [← hoffset]
      change (search? (offset + byteLength piece) (cs.dropWhile isInnerChar) _ >>= _) = _
      rw [List.nil_append] at hnext
      rw [hnext]
      rfl

/-! ### Spans -/

/-- Whether a stretch of a text, in bytes, is a piece of it. It begins and ends between characters
then. -/
def Span.Holds (span : Span) (text piece : String) : Prop :=
  ∃ before after, text = before ++ piece ++ after ∧ before.utf8ByteSize = span.start ∧
    (before ++ piece).utf8ByteSize = span.stop

/-- What is to hold of the words of an utterance. -/
structure Faithful (text : String) (words : List SpannedWord) : Prop where
  placed : ∀ w ∈ words, w.span.Holds text w.surface
  filled : ∀ w ∈ words, w.span.start < w.span.stop
  ordered : words.Pairwise fun v w => v.span.stop < w.span.start
  isWord : ∀ w ∈ words, IsWord w.surface.toList
  covered : ∀ before c after, text = before ++ String.singleton c ++ after → isWordChar c = true →
    ∃! w, w ∈ words ∧ w.span.start ≤ before.utf8ByteSize ∧
      before.utf8ByteSize + c.utf8Size ≤ w.span.stop

theorem eq_of_overlap (hordered : words.Pairwise fun v w => v.span.stop < w.span.start)
    {v w : SpannedWord} (hv : v ∈ words) (hw : w ∈ words) (hvw : v.span.start < w.span.stop)
    (hwv : w.span.start < v.span.stop) : v = w := by
  have hoverlap : ∀ ⦃v⦄, v ∈ words → ∀ ⦃w⦄, w ∈ words →
      v.span.start < w.span.stop → w.span.start < v.span.stop → v = w := by
    refine List.Pairwise.forall_of_forall_of_flip (fun _ _ _ _ => rfl) ?_ ?_
    · exact hordered.imp fun hlt _ hwv => absurd hwv (Nat.lt_asymm hlt)
    · exact hordered.imp fun hlt hwv _ => absurd hwv (Nat.lt_asymm hlt)
  exact hoverlap hv hw hvw hwv

theorem faithful_of_laid {text : String} (hlaid : Laid 0 text.toList words) :
    Faithful text words := by
  have hfilled : ∀ w ∈ words, w.span.start < w.span.stop := by
    intro w hw
    obtain ⟨_, _, _, hisWord, _, hstop⟩ := hlaid.exists_place w hw
    rw [hstop]
    exact Nat.lt_add_of_pos_right (byteLength_pos hisWord.ne_nil)
  refine ⟨fun w hw => ?_, hfilled, hlaid.ordered, fun w hw => ?_,
    fun before c after hsplit hc => ?_⟩
  · obtain ⟨before, after, hsplit, -, hstart, hstop⟩ := hlaid.exists_place w hw
    refine ⟨String.ofList before, String.ofList after, ?_, ?_, ?_⟩
    · rw [← String.toList_inj, hsplit]
      simp
    · rw [byteLength_ofList, hstart, Nat.zero_add]
    · rw [String.utf8ByteSize_append, byteLength_ofList, hstop, hstart, byteLength_toList,
        Nat.zero_add]
  · obtain ⟨_, _, _, hisWord, _⟩ := hlaid.exists_place w hw
    exact hisWord
  · have hchars : text.toList = before.toList ++ c :: after.toList := by
      rw [hsplit]
      simp
    obtain ⟨w, hw, hstart, hstop⟩ := hlaid.exists_covering hchars hc
    rw [Nat.zero_add, byteLength_toList] at hstart hstop
    refine ⟨w, ⟨hw, hstart, hstop⟩, fun v ⟨hv, hvstart, hvstop⟩ => ?_⟩
    have hsize := c.utf8Size_pos
    exact eq_of_overlap hlaid.ordered hv hw (by omega) (by omega)

/-- Every word of an utterance stands where its span says, and the spans follow each other. A word
has no blanks in it, begins and ends with characters of words, and each such character of the text
is in exactly one span. The places are those at which the pieces are found that stand between the
blanks, each of them searched for behind the one before it. -/
theorem splitWords_faithful (text : String) :
    Faithful text (splitWords text) ∧
      (search? 0 text.toList (pieces text.toList)).map (fun found =>
        found.filterMap fun (offset, piece) => wordOfPiece? offset piece) =
          some (splitWords text) := by
  refine ⟨faithful_of_laid (laid_piecesFrom 0 text.toList), ?_⟩
  have hfound := search?_pieces 0 text.toList [] 0 (List.forall_mem_nil _) rfl
  rw [List.nil_append] at hfound
  rw [hfound]
  rfl

/-- Characters of more than one byte are dropped around a word, and a whole piece between two. -/
example : splitWords "  \u00bf\u00e9t\u00e9? ... t" =
    [⟨"\u00e9t\u00e9", ⟨4, 9⟩⟩, ⟨"t", ⟨15, 16⟩⟩] := by
  decide +kernel

end Apprentice.Utterance
