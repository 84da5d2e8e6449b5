import Apprentice.Proofs.Text.Blank
import Apprentice.Proofs.Text.Trim
import Apprentice.Proofs.Text.CodeIndex
import Apprentice.Utterance.Teach
import Mathlib.Data.List.Forall2

/-!
# The form of teach instructions

A teach instruction is cut into pieces from the left, and its expression from the right. Here the
form is given without a direction: a text has it if it can be cut into such pieces in any way at
all. No piece can go on into the next one, as every piece but the expression ends where a character
stands that is none of its own, and the expression ends at the last quote. So there is one way to
cut a text at most, and the reader finds it. In particular an expression may hold quotes, and
whatever looks like the end of the word.
-/

namespace Apprentice.Utterance

open Text

variable {p : Char → Bool} {c : Char} {input piece rest word said : List Char} {parts : TeachParts}

/-! ### The form -/

/-- A word of the form in any letter case, given in lower case. -/
def Spells (word said : List Char) : Prop :=
  List.Forall₂ (fun letter c => sameLetter c letter = true) word said

/-- A piece that is one character at least, all of the same kind. -/
structure Run (p : Char → Bool) (piece : List Char) : Prop where
  some : piece ≠ []
  all : ∀ c ∈ piece, p c = true

/-- A quote that may be left out. -/
def Quote (piece : List Char) : Prop :=
  piece = [] ∨ piece = ['"']

def teachWord (replace : Bool) : List Char :=
  if replace then "reteach".toList else "teach".toList

/-- A way to cut a text into the pieces of a teach instruction. -/
structure Cut (parts : TeachParts) where
  front : List Char
  keyword : List Char
  typeGap : List Char
  wordGap : List Char
  opening : List Char
  closing : List Char
  asGap : List Char
  conjunction : List Char
  expressionGap : List Char
  back : List Char
  front_blank : ∀ c ∈ front, isBlank c = true
  keyword_spells : Spells (teachWord parts.replace) keyword
  typeGap_run : Run isBlank typeGap
  wordType_run : Run isTypeChar parts.wordType
  wordGap_run : Run isBlank wordGap
  opening_quote : Quote opening
  word_run : Run isTaughtChar parts.word
  closing_quote : Quote closing
  asGap_run : Run isBlank asGap
  conjunction_spells : Spells "as".toList conjunction
  expressionGap_run : Run isBlank expressionGap
  expression_line : '\n' ∉ parts.expression
  back_blank : ∀ c ∈ back, isBlank c = true

namespace Cut

def afterAs (cut : Cut parts) : List Char :=
  cut.expressionGap ++ '"' :: (parts.expression ++ '"' :: cut.back)

def afterWord (cut : Cut parts) : List Char :=
  cut.closing ++ (cut.asGap ++ (cut.conjunction ++ cut.afterAs))

def afterType (cut : Cut parts) : List Char :=
  cut.wordGap ++ (cut.opening ++ (parts.word ++ cut.afterWord))

def afterKeyword (cut : Cut parts) : List Char :=
  cut.typeGap ++ (parts.wordType ++ cut.afterType)

def text (cut : Cut parts) : List Char :=
  cut.front ++ (cut.keyword ++ cut.afterKeyword)

end Cut

/-! ### Pieces -/

/-- A text that begins with a character of another kind, where a piece ends. -/
def Apart (p : Char → Bool) (rest : List Char) : Prop :=
  ∃ c cs, rest = c :: cs ∧ p c = false

theorem Run.apart {q : Char → Bool} (hrun : Run q piece) (hother : ∀ c, q c = true → p c = false)
    (rest : List Char) : Apart p (piece ++ rest) := by
  obtain ⟨hsome, hall⟩ := hrun
  cases piece with
  | nil => exact absurd rfl hsome
  | cons c cs => exact ⟨c, cs ++ rest, rfl, hother c (hall c List.mem_cons_self)⟩

theorem Quote.apart (hquote : Quote piece) (hp : p '"' = false) (hrest : Apart p rest) :
    Apart p (piece ++ rest) := by
  rcases hquote with rfl | rfl
  · exact hrest
  · exact ⟨'"', rest, rfl, hp⟩

theorem apart_quote (hp : p '"' = false) (cs : List Char) : Apart p ('"' :: cs) :=
  ⟨'"', cs, rfl, hp⟩

theorem takeWhile_append_apart (hpiece : ∀ c ∈ piece, p c = true) (hrest : Apart p rest) :
    (piece ++ rest).takeWhile p = piece := by
  obtain ⟨c, cs, rfl, hc⟩ := hrest
  rw [List.takeWhile_append_of_pos hpiece, List.takeWhile_cons_of_neg (by simp [hc]),
    List.append_nil]

theorem dropWhile_append_apart (hpiece : ∀ c ∈ piece, p c = true) (hrest : Apart p rest) :
    (piece ++ rest).dropWhile p = rest := by
  obtain ⟨c, cs, rfl, hc⟩ := hrest
  rw [List.dropWhile_append_of_pos hpiece, List.dropWhile_cons_of_neg (by simp [hc])]

theorem afterBlanks?_append (hgap : Run isBlank piece) (hrest : Apart isBlank rest) :
    afterBlanks? (piece ++ rest) = some rest := by
  obtain ⟨hsome, hall⟩ := hgap
  cases piece with
  | nil => exact absurd rfl hsome
  | cons b gap =>
      obtain ⟨hb, hgap⟩ := List.forall_mem_cons.mp hall
      rw [List.cons_append, afterBlanks?, if_pos hb, trimStart, dropWhile_append_apart hgap hrest]

theorem exists_of_afterBlanks? (hafter : afterBlanks? input = some rest) :
    ∃ gap, Run isBlank gap ∧ input = gap ++ rest := by
  cases input with
  | nil => cases hafter
  | cons c cs =>
      rw [afterBlanks?] at hafter
      split at hafter
      next hc =>
        cases hafter
        refine ⟨c :: cs.takeWhile isBlank, ⟨List.cons_ne_nil _ _, ?_⟩, ?_⟩
        · exact List.forall_mem_cons.mpr ⟨hc, fun _ hc => List.mem_takeWhile_imp hc⟩
        · rw [List.cons_append, trimStart, List.takeWhile_append_dropWhile]
      next => cases hafter

theorem afterWord?_append (hspells : Spells word said) (rest : List Char) :
    afterWord? word (said ++ rest) = some rest := by
  induction hspells with
  | nil => rfl
  | cons hletter _ ih => rw [List.cons_append, afterWord?, if_pos hletter, ih]

theorem exists_of_afterWord? (hafter : afterWord? word input = some rest) :
    ∃ said, Spells word said ∧ input = said ++ rest := by
  induction word generalizing input with
  | nil =>
      cases hafter
      exact ⟨[], .nil, rfl⟩
  | cons letter word ih =>
      cases input with
      | nil => cases hafter
      | cons c cs =>
          rw [afterWord?] at hafter
          split at hafter
          next hletter =>
            obtain ⟨said, hsaid, rfl⟩ := ih hafter
            exact ⟨c :: said, .cons hletter hsaid, rfl⟩
          next => cases hafter

theorem skipQuote_append (hquote : Quote piece) (hrest : Apart (· == '"') rest) :
    skipQuote (piece ++ rest) = rest := by
  obtain ⟨c, cs, rfl, hc⟩ := hrest
  rcases hquote with rfl | rfl
  · rw [List.nil_append, skipQuote]
    intro other hcons
    rw [(List.cons.inj hcons).1] at hc
    cases hc
  · rfl

theorem exists_of_skipQuote (input : List Char) :
    ∃ quote, Quote quote ∧ input = quote ++ skipQuote input := by
  rw [skipQuote.eq_def]
  split
  next => exact ⟨['"'], .inr rfl, rfl⟩
  next => exact ⟨[], .inl rfl, rfl⟩

theorem quotedToEnd?_eq_some_iff : quotedToEnd? input = some piece ↔
    '\n' ∉ piece ∧ ∃ back, (∀ c ∈ back, isBlank c = true) ∧ input = piece ++ '"' :: back := by
  have hreverse : (trimEnd input).reverse = input.reverse.dropWhile isBlank :=
    List.reverse_reverse _
  rw [quotedToEnd?, hreverse]
  constructor
  · intro hpiece
    split at hpiece
    next reversed hlast =>
      split at hpiece
      next => cases hpiece
      next hline =>
        cases hpiece
        have hsplit := List.takeWhile_append_dropWhile (p := isBlank) (l := input.reverse)
        rw [hlast, ← List.reverse_inj, List.reverse_append, List.reverse_cons,
          List.reverse_reverse] at hsplit
        refine ⟨by simpa using hline, (input.reverse.takeWhile isBlank).reverse, ?_, ?_⟩
        · exact fun c hc => List.mem_takeWhile_imp (List.mem_reverse.mp hc)
        · rw [List.append_assoc, List.singleton_append] at hsplit
          exact hsplit.symm
    next => cases hpiece
  · rintro ⟨hline, back, hback, rfl⟩
    have hlast : (piece ++ '"' :: back).reverse.dropWhile isBlank = '"' :: piece.reverse := by
      rw [List.reverse_append, List.reverse_cons, List.append_assoc, List.singleton_append]
      exact dropWhile_append_apart (fun c hc => hback c (List.mem_reverse.mp hc))
        (apart_quote (by decide) _)
    rw [hlast]
    simp [hline]

/-! ### Characters of the pieces -/

theorem isBlank_of_isTypeChar (hc : isTypeChar c = true) : isBlank c = false := by
  simp only [isTypeChar, Bool.or_eq_true, beq_iff_eq] at hc
  rcases hc with ((halpha | rfl) | rfl) | rfl
  · exact forall_ascii (P := fun c => c.isAlpha = true → isBlank c = false) (by decide +kernel)
      (isAscii_of_isAlpha halpha) halpha
  · decide
  · decide
  · decide

theorem isBlank_of_isTaughtChar (hc : isTaughtChar c = true) : isBlank c = false := by
  simpa using (Bool.and_eq_true_iff.mp hc).2

theorem ne_quote_of_isTaughtChar (hc : isTaughtChar c = true) : c ≠ '"' := by
  simpa using (Bool.and_eq_true_iff.mp hc).1

/-- The letters of a keyword are letters of a type as well, in any letter case. -/
theorem isTypeChar_of_sameLetter {letter : Char} (hletter : letter.isLower = true)
    (hc : sameLetter c letter = true) : isTypeChar c = true := by
  simp only [sameLetter, Bool.or_eq_true, Bool.and_eq_true, beq_iff_eq] at hc
  rcases hc with (rfl | ⟨rfl, -⟩) | ⟨rfl, -⟩
  · have halpha : c.isAlpha = true := by
      by_cases hupper : c.val ≥ 'A'.val ∧ c.val ≤ 'Z'.val
      · exact Bool.or_eq_true_iff.mpr (.inl (decide_eq_true hupper))
      · have hlower : c.toLower = c := dif_neg hupper
        rw [hlower] at hletter
        exact Bool.or_eq_true_iff.mpr (.inr hletter)
    simp [isTypeChar, halpha]
  · decide
  · decide

theorem isWordConstituent_of_isBlank (hc : isBlank c = true) : isWordConstituent c = false := by
  have hapart : rangeBits blankRanges &&& rangeBits (alphanumericRanges ++ markRanges) = 0 := by
    decide +kernel
  rw [isBlank_eq] at hc
  have hrange := memRanges_of_apart hapart hc
  rw [memRanges, List.any_append, Bool.or_eq_false_iff] at hrange
  obtain ⟨halphanumeric, hmark⟩ := hrange
  have hother : charIn alphanumericRanges c = false := halphanumeric
  have hnomark : charIn markRanges c = false := hmark
  rw [isWordConstituent, isAlphanumeric, hother, hnomark]
  rfl

theorem Spells.run (hspells : Spells word said) (hword : word ≠ [])
    (hlower : word.all Char.isLower = true) : Run isTypeChar said := by
  constructor
  · rintro rfl
    exact hword (List.forall₂_nil_right_iff.mp hspells)
  · induction hspells with
    | nil => exact List.forall_mem_nil _
    | @cons letter c word said hletter hspells ih =>
        rw [List.all_cons, Bool.and_eq_true] at hlower
        obtain ⟨hfirst, hlower⟩ := hlower
        refine List.forall_mem_cons.mpr ⟨isTypeChar_of_sameLetter hfirst hletter, ?_⟩
        cases hspells with
        | nil => exact List.forall_mem_nil _
        | cons => exact ih (List.cons_ne_nil _ _) hlower

theorem isTypeChar_of_isBlank (hc : isBlank c = true) : isTypeChar c = false := by
  rw [← Bool.not_eq_true]
  intro htype
  rw [isBlank_of_isTypeChar htype] at hc
  cases hc

theorem isTaughtChar_of_isBlank (hc : isBlank c = true) : isTaughtChar c = false := by
  rw [isTaughtChar, hc, Bool.not_true, Bool.and_false]

theorem ne_quote_of_isBlank (hc : isBlank c = true) : (c == '"') = false := by
  rw [beq_eq_false_iff_ne]
  rintro rfl
  revert hc
  decide

/-! ### Reading -/

/-- What begins as `teach` does not begin as `reteach`. -/
theorem afterWord?_reteach (hspells : Spells "teach".toList said) (rest : List Char) :
    afterWord? "reteach".toList (said ++ rest) = none := by
  rw [show "teach".toList = 't' :: "each".toList by decide] at hspells
  obtain ⟨c, cs, hc, -, rfl⟩ := List.forall₂_cons_left_iff.mp hspells
  rw [show "reteach".toList = 'r' :: "eteach".toList by decide, List.cons_append, afterWord?,
    if_neg]
  have hlower : c.toLower = 't' := by simpa [sameLetter] using hc
  simp [sameLetter, hlower]

namespace Cut

variable (cut : Cut parts)

theorem afterTeach?_text : afterTeach? cut.text = some (parts.replace, cut.afterKeyword) := by
  have hspells := cut.keyword_spells
  have hkeyword : Run isTypeChar cut.keyword := by
    refine hspells.run ?_ ?_
    · cases parts.replace <;> decide
    · cases parts.replace <;> decide
  have hstart : trimStart cut.text = cut.keyword ++ cut.afterKeyword :=
    dropWhile_append_apart cut.front_blank (hkeyword.apart (fun c => isBlank_of_isTypeChar) _)
  rw [afterTeach?, hstart]
  cases hreplace : parts.replace with
  | true =>
      rw [hreplace] at hspells
      rw [afterWord?_append (show Spells "reteach".toList cut.keyword from hspells)]
  | false =>
      rw [hreplace] at hspells
      have hteach : Spells "teach".toList cut.keyword := hspells
      rw [afterWord?_reteach hteach, afterWord?_append hteach]
      rfl

theorem startsTeach_text : startsTeach cut.text = true := by
  obtain ⟨c, cs, hcons, hc⟩ := cut.typeGap_run.apart (p := isWordConstituent)
    (fun c => isWordConstituent_of_isBlank) (parts.wordType ++ cut.afterType)
  rw [startsTeach, afterTeach?_text, afterKeyword, hcons]
  simp [hc]

theorem teachParts?_text : teachParts? cut.text = some parts := by
  have htypeGap : afterBlanks? cut.afterKeyword = some (parts.wordType ++ cut.afterType) :=
    afterBlanks?_append cut.typeGap_run (cut.wordType_run.apart (fun c => isBlank_of_isTypeChar) _)
  have htype : Apart isTypeChar cut.afterType :=
    cut.wordGap_run.apart (fun c => isTypeChar_of_isBlank) _
  have hwordGap : afterBlanks? cut.afterType =
      some (cut.opening ++ (parts.word ++ cut.afterWord)) :=
    afterBlanks?_append cut.wordGap_run (cut.opening_quote.apart (by decide)
      (cut.word_run.apart (fun c => isBlank_of_isTaughtChar) _))
  have hopening : skipQuote (cut.opening ++ (parts.word ++ cut.afterWord)) =
      parts.word ++ cut.afterWord :=
    skipQuote_append cut.opening_quote (cut.word_run.apart
      (fun c hc => beq_false_of_ne (ne_quote_of_isTaughtChar hc)) _)
  have hword : Apart isTaughtChar cut.afterWord :=
    cut.closing_quote.apart (by decide) (cut.asGap_run.apart (fun c => isTaughtChar_of_isBlank) _)
  have hclosing : skipQuote cut.afterWord = cut.asGap ++ (cut.conjunction ++ cut.afterAs) :=
    skipQuote_append cut.closing_quote (cut.asGap_run.apart (fun c => ne_quote_of_isBlank) _)
  have hconjunction : Run isTypeChar cut.conjunction :=
    cut.conjunction_spells.run (by decide) (by decide)
  have hasGap : afterBlanks? (cut.asGap ++ (cut.conjunction ++ cut.afterAs)) =
      some (cut.conjunction ++ cut.afterAs) :=
    afterBlanks?_append cut.asGap_run (hconjunction.apart (fun c => isBlank_of_isTypeChar) _)
  have has := afterWord?_append cut.conjunction_spells cut.afterAs
  have hexpressionGap : afterBlanks? cut.afterAs =
      some ('"' :: (parts.expression ++ '"' :: cut.back)) :=
    afterBlanks?_append cut.expressionGap_run (apart_quote (by decide) _)
  have hexpression : quotedToEnd? (parts.expression ++ '"' :: cut.back) = some parts.expression :=
    quotedToEnd?_eq_some_iff.mpr ⟨cut.expression_line, cut.back, cut.back_blank, rfl⟩
  simp only [teachParts?, afterTeach?_text, Option.bind_eq_bind, Option.bind_some, htypeGap,
    takeWhile_append_apart cut.wordType_run.all htype,
    dropWhile_append_apart cut.wordType_run.all htype, hwordGap, hopening,
    takeWhile_append_apart cut.word_run.all hword, dropWhile_append_apart cut.word_run.all hword,
    hclosing, hasGap, has, hexpressionGap, hexpression,
    List.isEmpty_eq_false_iff.mpr cut.wordType_run.some,
    List.isEmpty_eq_false_iff.mpr cut.word_run.some]
  rfl

end Cut

theorem exists_of_afterTeach? {replace : Bool} (hafter : afterTeach? input = some (replace, rest)) :
    ∃ front keyword, (∀ c ∈ front, isBlank c = true) ∧ Spells (teachWord replace) keyword ∧
      input = front ++ (keyword ++ rest) := by
  have hsplit : input = input.takeWhile isBlank ++ trimStart input :=
    (List.takeWhile_append_dropWhile).symm
  have hfront : ∀ c ∈ input.takeWhile isBlank, isBlank c = true :=
    fun _ hc => List.mem_takeWhile_imp hc
  rw [afterTeach?] at hafter
  split at hafter
  next hreteach =>
    cases hafter
    obtain ⟨keyword, hspells, hkeyword⟩ := exists_of_afterWord? hreteach
    exact ⟨_, keyword, hfront, hspells, hkeyword ▸ hsplit⟩
  next =>
    obtain ⟨after, hteach, hrest⟩ := Option.map_eq_some_iff.mp hafter
    cases hrest
    obtain ⟨keyword, hspells, hkeyword⟩ := exists_of_afterWord? hteach
    exact ⟨_, keyword, hfront, hspells, hkeyword ▸ hsplit⟩

theorem run_takeWhile {x : Unit} (hsome : guard (!(input.takeWhile p).isEmpty) = some x) :
    Run p (input.takeWhile p) := by
  refine ⟨?_, fun _ hc => List.mem_takeWhile_imp hc⟩
  simpa using hsome

/-- What is read is a way to cut the text. -/
theorem exists_cut (hparts : teachParts? input = some parts) :
    ∃ cut : Cut parts, cut.text = input := by
  rw [teachParts?] at hparts
  obtain ⟨⟨replace, afterKeyword⟩, hkeyword, hparts⟩ := Option.bind_eq_some_iff.mp hparts
  obtain ⟨afterGap, htype, hparts⟩ := Option.bind_eq_some_iff.mp hparts
  obtain ⟨_, hsomeType, hparts⟩ := Option.bind_eq_some_iff.mp hparts
  obtain ⟨afterType, hword, hparts⟩ := Option.bind_eq_some_iff.mp hparts
  obtain ⟨_, hsomeWord, hparts⟩ := Option.bind_eq_some_iff.mp hparts
  obtain ⟨afterWord, hword', hparts⟩ := Option.bind_eq_some_iff.mp hparts
  obtain ⟨afterAs, has, hparts⟩ := Option.bind_eq_some_iff.mp hparts
  obtain ⟨quoted, hquoted, hparts⟩ := Option.bind_eq_some_iff.mp hparts
  split at hparts
  next =>
    obtain ⟨expression, hexpression, hparts⟩ := Option.bind_eq_some_iff.mp hparts
    cases hparts
    obtain ⟨front, keyword, hfront, hspells, rfl⟩ := exists_of_afterTeach? hkeyword
    obtain ⟨typeGap, htypeGap, rfl⟩ := exists_of_afterBlanks? htype
    obtain ⟨wordGap, hwordGap, hafterType⟩ := exists_of_afterBlanks? hword
    obtain ⟨opening, hopening, hafterOpening⟩ := exists_of_skipQuote afterType
    obtain ⟨closing, hclosing, hafterClosing⟩ :=
      exists_of_skipQuote ((skipQuote afterType).dropWhile isTaughtChar)
    obtain ⟨asGap, hasGap, hafterAsGap⟩ := exists_of_afterBlanks? hword'
    obtain ⟨conjunction, hconjunction, rfl⟩ := exists_of_afterWord? has
    obtain ⟨expressionGap, hexpressionGap, rfl⟩ := exists_of_afterBlanks? hquoted
    obtain ⟨hline, back, hback, rfl⟩ := quotedToEnd?_eq_some_iff.mp hexpression
    refine ⟨{
      front, keyword, typeGap, wordGap, opening, closing, asGap, conjunction, expressionGap, back
      front_blank := hfront
      keyword_spells := hspells
      typeGap_run := htypeGap
      wordType_run := run_takeWhile hsomeType
      wordGap_run := hwordGap
      opening_quote := hopening
      word_run := run_takeWhile hsomeWord
      closing_quote := hclosing
      asGap_run := hasGap
      conjunction_spells := hconjunction
      expressionGap_run := hexpressionGap
      expression_line := hline
      back_blank := hback }, ?_⟩
    simp only [Cut.text, Cut.afterKeyword, Cut.afterType, Cut.afterWord, Cut.afterAs]
    rw [← hafterAsGap, ← hafterClosing, List.takeWhile_append_dropWhile, ← hafterOpening,
      ← hafterType, List.takeWhile_append_dropWhile]
  next => cases hparts

theorem teachParts?_eq_some_iff :
    teachParts? input = some parts ↔ ∃ cut : Cut parts, cut.text = input :=
  ⟨exists_cut, fun ⟨cut, htext⟩ => htext ▸ cut.teachParts?_text⟩

/-! ### Instructions -/

/-- A text that can be cut is an instruction, unless there is no such word type. -/
theorem parseTeach_of_cut {text : String} (cut : Cut parts) (htext : cut.text = text.toList)
    {wordType : WordType} (htype : WordType.parse (String.ofList parts.wordType) = .ok wordType) :
    parseTeach text = some (.ok ⟨wordType, String.ofList parts.word,
      trimmed (String.ofList parts.expression), parts.replace⟩) := by
  rw [parseTeach, ← htext, cut.startsTeach_text, cut.teachParts?_text]
  dsimp only
  rw [htype]
  rfl

/-- There is one way to cut a text at most, as far as the parts that are read are concerned. -/
theorem Cut.parts_unique {other : TeachParts} (cut : Cut parts) (otherCut : Cut other)
    (htext : otherCut.text = cut.text) : other = parts :=
  Option.some.inj (otherCut.teachParts?_text.symm.trans (htext ▸ cut.teachParts?_text))

/-- An instruction as it is written, with the word in quotes or without. -/
def instruction (keyword : String) (wordType : WordType) (quoted : Bool)
    (word expression : String) : String :=
  keyword ++ " " ++ wordType.label ++ " " ++ (if quoted then "\"" ++ word ++ "\"" else word)
    ++ " as \"" ++ expression ++ "\""

theorem spells_of_map {word said : List Char} (hword : said.map Char.toLower = word) :
    Spells word said := by
  rw [Spells, ← hword, List.forall₂_map_left_iff, List.forall₂_same]
  exact fun c _ => by simp [sameLetter]

theorem run_of_all (hsome : piece ≠ []) (hall : piece.all p = true) : Run p piece :=
  ⟨hsome, List.all_eq_true.mp hall⟩

theorem run_blank : Run isBlank [' '] :=
  run_of_all (by decide) (by decide)

theorem run_label (wordType : WordType) : Run isTypeChar wordType.label.toList := by
  cases wordType <;> exact run_of_all (by decide) (by decide)

section Instruction

variable {keyword word expression : String} {replace : Bool}

/-- The pieces that an instruction was put together from. -/
def instructionCut (hkeyword : keyword.toList.map Char.toLower = teachWord replace)
    (hsome : word ≠ "") (hword : ∀ c ∈ word.toList, isBlank c = false ∧ c ≠ '"')
    (hline : '\n' ∉ expression.toList) (wordType : WordType) (quoted : Bool) :
    Cut ⟨replace, wordType.label.toList, word.toList, expression.toList⟩ where
  front := []
  keyword := keyword.toList
  typeGap := [' ']
  wordGap := [' ']
  opening := if quoted then ['"'] else []
  closing := if quoted then ['"'] else []
  asGap := [' ']
  conjunction := ['a', 's']
  expressionGap := [' ']
  back := []
  front_blank := List.forall_mem_nil _
  keyword_spells := spells_of_map hkeyword
  typeGap_run := run_blank
  wordType_run := run_label wordType
  wordGap_run := run_blank
  opening_quote := by cases quoted <;> simp [Quote]
  word_run := by
    refine ⟨by simpa using hsome, fun c hc => ?_⟩
    obtain ⟨hblank, hquote⟩ := hword c hc
    simp [isTaughtChar, hblank, hquote]
  closing_quote := by cases quoted <;> simp [Quote]
  asGap_run := run_blank
  conjunction_spells := spells_of_map (by decide)
  expressionGap_run := run_blank
  expression_line := hline
  back_blank := List.forall_mem_nil _

/-- An instruction is understood as it was meant, in any letter case of its keyword and with the
word in quotes or without, although the expression may hold quotes, and whatever else stands in the
form. There is no other way to cut it. -/
theorem parseTeach_instruction (hkeyword : keyword.toList.map Char.toLower = teachWord replace)
    (hsome : word ≠ "") (hword : ∀ c ∈ word.toList, isBlank c = false ∧ c ≠ '"')
    (htrimmed : trimmed expression = expression) (hline : '\n' ∉ expression.toList)
    (wordType : WordType) (quoted : Bool) :
    parseTeach (instruction keyword wordType quoted word expression) =
      some (.ok ⟨wordType, word, expression, replace⟩) ∧
    ∀ (parts : TeachParts) (cut : Cut parts),
      cut.text = (instruction keyword wordType quoted word expression).toList →
        parts = ⟨replace, wordType.label.toList, word.toList, expression.toList⟩ := by
  let cut := instructionCut hkeyword hsome hword hline wordType quoted
  have htext : cut.text = (instruction keyword wordType quoted word expression).toList := by
    cases quoted <;> simp [cut, instructionCut, instruction, Cut.text, Cut.afterKeyword,
      Cut.afterType, Cut.afterWord, Cut.afterAs]
  have htype : WordType.parse (String.ofList wordType.label.toList) = .ok wordType := by
    cases wordType <;> decide +kernel
  have hparse := parseTeach_of_cut cut htext htype
  simp only [String.ofList_toList, htrimmed] at hparse
  exact ⟨hparse, fun parts other hother => cut.parts_unique other (hother.trans htext.symm)⟩

end Instruction

/-- The meaning of a word is a text that looks like the end of an instruction. -/
theorem parseTeach_instruction_says :
    parseTeach "ReTeach social Says as \"he said \"hi\" as \"hello\"\"" =
        some (.ok ⟨.social, "Says", "he said \"hi\" as \"hello\"", true⟩) ∧
      parseTeach "teach social \"Says\" as \"he said \"hi\" as \"hello\"\"" =
        some (.ok ⟨.social, "Says", "he said \"hi\" as \"hello\"", false⟩) := by
  have hall : "Says".toList.all (fun c => !isBlank c && c != '"') = true := by decide
  have hword : ∀ c ∈ "Says".toList, isBlank c = false ∧ c ≠ '"' :=
    fun c hc => by simpa using List.all_eq_true.mp hall c hc
  have htrimmed : trimmed "he said \"hi\" as \"hello\"" = "he said \"hi\" as \"hello\"" := by
    decide +kernel
  have hline : '\n' ∉ "he said \"hi\" as \"hello\"".toList := by decide
  have hagain : "ReTeach".toList.map Char.toLower = teachWord true := by decide
  have hfirst : "teach".toList.map Char.toLower = teachWord false := by decide
  exact ⟨(parseTeach_instruction hagain (by decide) hword htrimmed hline .social false).1,
    (parseTeach_instruction hfirst (by decide) hword htrimmed hline .social true).1⟩

end Apprentice.Utterance
