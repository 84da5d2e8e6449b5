import Apprentice.Proofs.Expr.Completeness
import Apprentice.Proofs.Expr.Height

/-!
# The tallest tree

The greatest height is reached. With all the room that is left, a chain of every level is put above
one and the same first operand, a subscripted list of an expression that is built in the same way
with one level less.
-/

namespace Apprentice.Expr

/-! ### Building phrases -/

def Phrase.zero : Phrase :=
  ⟨[.int 0], .literal (.int 0)⟩

/-- A chain of one operator that has zeros as its other operands. -/
def Phrase.chained (p : Phrase) (mark : Lexeme) (op : BinaryOp) (links : Nat) : Phrase :=
  ⟨p.lexemes ++ (List.replicate links (⟨mark, op, .zero⟩ : Link)).flatMap Link.lexemes,
    (List.replicate links (⟨mark, op, .zero⟩ : Link)).foldl Link.join p.tree⟩

def Phrase.subscripted (p : Phrase) (subscripts : Nat) : Phrase :=
  ⟨p.lexemes ++ (List.replicate subscripts Phrase.zero).flatMap Phrase.bracketed,
    (List.replicate subscripts Phrase.zero).foldl Phrase.select p.tree⟩

def Phrase.equated (p : Phrase) : Phrase :=
  ⟨p.lexemes ++ .eqEq :: Phrase.zero.lexemes, .binary .eq p.tree Phrase.zero.tree⟩

def Phrase.listed (p : Phrase) : Phrase :=
  ⟨.openBracket :: (separated [p] ++ [.closeBracket]), .list [p.tree]⟩

def Phrase.raised (room : Nat) (p : Phrase) : Phrase :=
  let sum := (p.chained .star .mul room).chained .plus .add room
  (sum.equated.chained (.ident "and") .and room).chained (.ident "or") .or room

/-- The tallest signed expression for some room. -/
def tower : Nat → Phrase
  | 0 => .zero
  | room + 1 => ((tower room).raised room).listed.subscripted room

/-! ### Heights -/

variable {endOffset room : Nat} {p : Phrase} {level : Chain} {mark : Lexeme} {op : BinaryOp}

theorem Phrase.height_zero : Phrase.zero.tree.height = 0 := rfl

theorem height_foldl {α : Type} {f : Expr → α → Expr} {a : α}
    (hraises : ∀ e, (f e a).height = e.height + 1) (n : Nat) (e : Expr) :
    ((List.replicate n a).foldl f e).height = e.height + n := by
  induction n generalizing e with
  | zero => rfl
  | succ n ih =>
      rw [List.replicate_succ, List.foldl_cons, ih, hraises, Nat.add_right_comm, Nat.add_assoc]

theorem height_chained (p : Phrase) (mark : Lexeme) (op : BinaryOp) (links : Nat) :
    (p.chained mark op links).tree.height = p.tree.height + links := by
  refine height_foldl (fun e => ?_) links p.tree
  rw [Link.join, height_binary, Phrase.height_zero, Nat.max_zero]

theorem height_subscripted (p : Phrase) (subscripts : Nat) :
    (p.subscripted subscripts).tree.height = p.tree.height + subscripts := by
  refine height_foldl (fun e => ?_) subscripts p.tree
  rw [Phrase.select, height_index, Phrase.height_zero, Nat.max_zero]

theorem height_equated (p : Phrase) : p.equated.tree.height = p.tree.height + 1 := by
  rw [Phrase.equated, height_binary, Phrase.height_zero, Nat.max_zero]

theorem height_listed (p : Phrase) : p.listed.tree.height = p.tree.height + 1 := by
  rw [Phrase.listed, height, weight, weightOf, weightOf, Nat.max_zero]

theorem height_raised (room : Nat) (p : Phrase) :
    (p.raised room).tree.height = p.tree.height + (4 * room + 1) := by
  rw [Phrase.raised, height_chained, height_chained, height_equated, height_chained,
    height_chained]
  omega

theorem height_tower (room : Nat) : (tower room).tree.height = tallest room := by
  induction room with
  | zero => rfl
  | succ room ih =>
      rw [tower, height_subscripted, height_listed, height_raised, ih, tallest]
      omega

/-! ### Writing -/

/-- Whether characters are a lexeme, whatever comes after them. -/
def Writes (cs : List Char) (m : Lexeme) : Prop :=
  ∀ offset more, ∃ later, ∀ tokens, tokensFrom later more = .ok tokens →
    tokensFrom offset (cs ++ more) = .ok (⟨m, offset⟩ :: tokens)

def spellings : List (Lexeme × Char × List Char) :=
  [(.int 0, '0', []), (.star, '*', []), (.plus, '+', []), (.eqEq, '=', ['=']),
    (.ident "and", 'a', ['n', 'd']), (.ident "or", 'o', ['r']), (.openBracket, '[', []),
    (.closeBracket, ']', [])]

theorem readLexeme_of_mem_spellings {m : Lexeme} {c : Char} {cs : List Char}
    (hmem : (m, c, cs) ∈ spellings) (offset : Nat) (more : List Char) : ∃ hshorter,
      readLexeme offset c (cs ++ ' ' :: more) = .ok ⟨m, cs, ' ' :: more, hshorter⟩ := by
  simp only [spellings, List.mem_cons, Prod.mk.injEq, List.not_mem_nil, or_false] at hmem
  obtain ⟨rfl, rfl, rfl⟩ | ⟨rfl, rfl, rfl⟩ | ⟨rfl, rfl, rfl⟩ | ⟨rfl, rfl, rfl⟩ | ⟨rfl, rfl, rfl⟩ |
    ⟨rfl, rfl, rfl⟩ | ⟨rfl, rfl, rfl⟩ | ⟨rfl, rfl, rfl⟩ := hmem <;> exact ⟨_, rfl⟩

theorem exists_writes {m : Lexeme} (hspelled : m ∈ spellings.map Prod.fst) :
    ∃ cs, Writes cs m := by
  obtain ⟨⟨_, c, cs⟩, hmem, rfl⟩ := List.mem_map.mp hspelled
  have hblanks : ∀ entry ∈ spellings, ¬ Text.isBlank entry.2.1 = true := by decide
  refine ⟨c :: (cs ++ [' ']), fun offset more => ?_⟩
  obtain ⟨hshorter, hread⟩ := readLexeme_of_mem_spellings hmem offset more
  refine ⟨offset + Text.byteLength (c :: cs) + ' '.utf8Size, fun tokens htokens => ?_⟩
  have hrest : tokensFrom (offset + Text.byteLength (c :: cs)) (' ' :: more) = .ok tokens := by
    rw [tokensFrom, if_pos (by decide)]
    exact htokens
  rw [List.cons_append, List.append_assoc, List.singleton_append, tokensFrom,
    if_neg (hblanks _ hmem), hread]
  change (tokensFrom _ (' ' :: more) >>= _) = _
  rw [hrest]
  rfl

theorem exists_source {ms : List Lexeme} (hwritten : ∀ m ∈ ms, ∃ cs, Writes cs m) :
    ∃ source tokens, tokenize source = .ok tokens ∧ tokens.map Token.lexeme = ms := by
  have hall : ∃ cs, ∀ offset, ∃ tokens,
      tokensFrom offset cs = .ok tokens ∧ tokens.map Token.lexeme = ms := by
    induction ms with
    | nil => exact ⟨[], fun offset => ⟨[], by rw [tokensFrom], rfl⟩⟩
    | cons m ms ih =>
        obtain ⟨⟨first, hfirst⟩, hwritten⟩ := List.forall_mem_cons.mp hwritten
        obtain ⟨more, hmore⟩ := ih hwritten
        refine ⟨first ++ more, fun offset => ?_⟩
        obtain ⟨later, hlater⟩ := hfirst offset more
        obtain ⟨tokens, htokens, hmap⟩ := hmore later
        exact ⟨_, hlater tokens htokens, by rw [List.map_cons, hmap]⟩
  obtain ⟨cs, hcs⟩ := hall
  obtain ⟨tokens, htokens, hmap⟩ := hcs 0
  exact ⟨String.ofList cs, tokens, by rw [tokenize, String.toList_ofList, htokens], hmap⟩

/-! ### Reading -/

/-- Whether a phrase is one of a construct, can be written, and is read with some room. -/
structure Fits (endOffset : Nat) (c : Construct) (room : Nat) (p : Phrase) : Prop where
  derives : Derives c p.lexemes p.tree
  written : ∀ m ∈ p.lexemes, ∃ cs, Writes cs m
  readWith : ReadWith endOffset c room p.lexemes p.tree

theorem derives_zero (c : Construct) : Derives c Phrase.zero.lexemes Phrase.zero.tree := by
  have hprimary : Derives .primary Phrase.zero.lexemes Phrase.zero.tree := .int 0
  have hsubscripted : Derives .subscripted Phrase.zero.lexemes Phrase.zero.tree :=
    @Derives.subscripted .zero [] hprimary nofun
  have hchain (level : Chain)
      (hfirst : Derives level.operands Phrase.zero.lexemes Phrase.zero.tree) :
      Derives (.chain level) Phrase.zero.lexemes Phrase.zero.tree :=
    @Derives.chain level .zero [] hfirst nofun nofun
  have hproduct := hchain .product (.unsigned hsubscripted)
  have hsum := hchain .sum hproduct
  have hnegation := Derives.affirmed (.uncompared hsum)
  have hconjunction := hchain .conjunction hnegation
  cases c with
  | chain level =>
      cases level with
      | disjunction => exact hchain .disjunction hconjunction
      | conjunction => exact hconjunction
      | sum => exact hsum
      | product => exact hproduct
  | negation => exact hnegation
  | comparison => exact .uncompared hsum
  | signed => exact .unsigned hsubscripted
  | subscripted => exact hsubscripted
  | primary => exact hprimary

theorem fits_zero (c : Construct) : Fits endOffset c room .zero where
  derives := derives_zero c
  written := List.forall_mem_singleton.mpr (exists_writes (by decide))
  readWith := (complete_iff.mp ((derives_zero c).complete endOffset)).mono (Nat.zero_le room)

theorem Fits.chained (hfits : Fits endOffset level.operands room p)
    (hmark : (mark, op) ∈ level.marks) (hspelling : mark ∈ spellings.map Prod.fst) :
    Fits endOffset (.chain level) room (p.chained mark op room) := by
  have hmarks : ∀ link ∈ List.replicate room (⟨mark, op, .zero⟩ : Link),
      (link.mark, link.op) ∈ level.marks := fun link hlink =>
    List.eq_of_mem_replicate hlink ▸ hmark
  have hlinks : ∀ link ∈ List.replicate room (⟨mark, op, .zero⟩ : Link),
      Fits endOffset level.operands 0 link.right := fun link hlink =>
    List.eq_of_mem_replicate hlink ▸ fits_zero level.operands
  refine ⟨.chain hfits.derives hmarks fun link hlink => (hlinks link hlink).derives, ?_,
    readWith_chain hmarks hfits.readWith (fun link hlink => (hlinks link hlink).readWith)
      (Nat.le_of_eq (List.length_replicate ..))⟩
  refine List.forall_mem_append.mpr
    ⟨hfits.written, List.forall_mem_flatMap.mpr fun link hlink => ?_⟩
  refine List.forall_mem_cons.mpr ⟨?_, (hlinks link hlink).written⟩
  exact List.eq_of_mem_replicate hlink ▸ exists_writes hspelling

theorem Fits.equated (hfits : Fits endOffset (.chain .sum) room p) :
    Fits endOffset .comparison room p.equated := by
  have hzero : Fits endOffset (.chain .sum) room .zero := fits_zero _
  have hmark : ∃ cs, Writes cs .eqEq := exists_writes (by decide)
  exact ⟨.comparison (by decide) hfits.derives hzero.derives,
    List.forall_mem_append.mpr ⟨hfits.written, List.forall_mem_cons.mpr ⟨hmark, hzero.written⟩⟩,
    readWith_comparison (by decide) hfits.readWith hzero.readWith⟩

theorem Fits.affirmed (hfits : Fits endOffset .comparison room p) :
    Fits endOffset .negation room p :=
  ⟨.affirmed hfits.derives, hfits.written, readWith_affirmed hfits.derives hfits.readWith⟩

theorem Fits.raised (hfits : Fits endOffset .signed room p) :
    Fits endOffset .expression room (p.raised room) := by
  have hproduct : Fits endOffset (.chain .product) room (p.chained .star .mul room) :=
    Fits.chained hfits (by decide) (by decide)
  have hsum : Fits endOffset (.chain .sum) room
      ((p.chained .star .mul room).chained .plus .add room) :=
    Fits.chained hproduct (by decide) (by decide)
  have hconjunction : Fits endOffset (.chain .conjunction) room
      (((p.chained .star .mul room).chained .plus .add room).equated.chained
        (.ident "and") .and room) :=
    Fits.chained hsum.equated.affirmed (by decide) (by decide)
  exact Fits.chained hconjunction (by decide) (by decide)

theorem Fits.written_bracketed {c : Construct} (hfits : Fits endOffset c room p) :
    ∀ m ∈ p.bracketed, ∃ cs, Writes cs m := by
  refine List.forall_mem_cons.mpr ⟨exists_writes (by decide), ?_⟩
  refine List.forall_mem_append.mpr ⟨hfits.written, List.forall_mem_singleton.mpr ?_⟩
  exact exists_writes (by decide)

theorem Fits.listed (hfits : Fits endOffset .expression room p) :
    Fits endOffset .primary (room + 1) p.listed := by
  have hderives : ∀ q ∈ [p], Derives .expression q.lexemes q.tree :=
    List.forall_mem_singleton.mpr hfits.derives
  refine ⟨.list hderives, ?_, readWith_list hderives (List.forall_mem_singleton.mpr hfits.readWith)⟩
  rw [Phrase.listed, separated_singleton]
  exact hfits.written_bracketed

theorem Fits.subscripted (hfits : Fits endOffset .primary (room + 1) p) :
    Fits endOffset .signed (room + 1) (p.subscripted room) := by
  have hpositions : ∀ q ∈ List.replicate room Phrase.zero, Fits endOffset .expression 0 q :=
    fun q hq => List.eq_of_mem_replicate hq ▸ fits_zero .expression
  have hderives : Derives .subscripted (p.subscripted room).lexemes (p.subscripted room).tree :=
    .subscripted hfits.derives fun q hq => (hpositions q hq).derives
  refine ⟨.unsigned hderives, ?_, readWith_unsigned hderives ?_⟩
  · exact List.forall_mem_append.mpr
      ⟨hfits.written, List.forall_mem_flatMap.mpr fun q hq => (hpositions q hq).written_bracketed⟩
  · refine readWith_subscripted hfits.readWith (fun q hq => (hpositions q hq).readWith)
      fun q hq => ?_
    rw [List.length_replicate]
    exact Nat.lt_succ_self room

theorem fits_tower (endOffset room : Nat) : Fits endOffset .signed room (tower room) := by
  induction room with
  | zero => exact fits_zero .signed
  | succ room ih => exact ih.raised.listed.subscripted

/-! ### Sources -/

/-- A phrase that fits in all of the room is the tree of some source. -/
theorem Fits.exists_source {inner : Nat} (hroom : maxDepth = inner + 1)
    (hfits : ∀ endOffset, Fits endOffset .expression inner p) : ∃ source tokens,
      tokenize source = .ok tokens ∧ parse source.utf8ByteSize tokens = .ok p.tree := by
  obtain ⟨source, tokens, htokens, hmap⟩ := Expr.exists_source (hfits 0).written
  refine ⟨source, tokens, htokens, ?_⟩
  have hread := (hfits source.utf8ByteSize).readWith.expression (spells_all.mpr hmap) (stops_nil _)
    maxDepth
  obtain ⟨hshorter, hread⟩ := hread.eq_ok (by omega)
  have hsome : tokens.isEmpty ≠ true := by
    intro hempty
    rw [List.isEmpty_iff.mp hempty] at hshorter
    exact absurd hshorter (Nat.lt_irrefl 0)
  rw [parse, if_neg hsome, hread]
  rfl

theorem exists_tallest : ∃ source tokens e, tokenize source = .ok tokens ∧
    parse source.utf8ByteSize tokens = .ok e ∧ e.height = 10144 := by
  obtain ⟨source, tokens, htokens, hparse⟩ :=
    Fits.exists_source rfl fun endOffset => (fits_tower endOffset 63).raised
  refine ⟨source, tokens, _, htokens, hparse, ?_⟩
  rw [height_raised, height_tower]
  rfl

/-- A tree that is accepted, of whichever source, has fewer counted levels than the limit on every
way down, so its height is less than the limit and the levels that are not counted. It has 10144
levels at most, and some tree has as many. -/
theorem height_of_accepted {endOffset : Nat} {tokens : List Token} {e : Expr}
    (hparse : parse endOffset tokens = .ok e) :
    e.counted < maxDepth ∧ e.height < maxDepth + e.uncounted ∧ e.height ≤ 10144 ∧
      ∃ source tokens tallest, tokenize source = .ok tokens ∧
        parse source.utf8ByteSize tokens = .ok tallest ∧ tallest.height = 10144 := by
  obtain ⟨inner, hroom, hbounds⟩ := nested_of_parse hparse
  obtain rfl := Nat.succ.inj hroom
  have hsplit := height_le e
  have hcounted := Nat.lt_succ_of_le hbounds.counted
  exact ⟨hcounted, Nat.lt_of_le_of_lt hsplit (Nat.add_lt_add_right hcounted _), hbounds.height,
    exists_tallest⟩

/-- Negations are counted, and the disjunctions that come to lie above them are not. -/
theorem height_of_accepted_negations : ∃ tokens e,
    tokenize "!!!!!!!!!!!!!!!!!!!!!!!!!!!!!!!!!!!!!!!!!!!!!!!!!!!!!!!!!!!!!!!true or true or true" =
      .ok tokens ∧ parse 83 tokens = .ok e ∧ e.height = 65 ∧ e.counted < maxDepth ∧
      e.height < maxDepth + e.uncounted ∧ e.height ≤ 10144 := by
  let truth : Expr := .literal (.bool true)
  let negations : Expr := (List.range 63).foldl (fun e _ => .unary .not e) truth
  have htokens : tokenize
      "!!!!!!!!!!!!!!!!!!!!!!!!!!!!!!!!!!!!!!!!!!!!!!!!!!!!!!!!!!!!!!!true or true or true" =
    .ok ((List.range 63).map (⟨.bang, ·⟩) ++ [⟨.ident "true", 63⟩, ⟨.ident "or", 68⟩,
      ⟨.ident "true", 71⟩, ⟨.ident "or", 76⟩, ⟨.ident "true", 79⟩]) := by decide +kernel
  have hparse : parse 83 ((List.range 63).map (⟨.bang, ·⟩) ++ [⟨.ident "true", 63⟩,
      ⟨.ident "or", 68⟩, ⟨.ident "true", 71⟩, ⟨.ident "or", 76⟩, ⟨.ident "true", 79⟩]) =
    .ok (.binary .or (.binary .or negations truth) truth) := by cbv
  obtain ⟨hcounted, hheight, hle, -⟩ := height_of_accepted hparse
  exact ⟨_, _, htokens, hparse, rfl, hcounted, hheight, hle⟩

end Apprentice.Expr
