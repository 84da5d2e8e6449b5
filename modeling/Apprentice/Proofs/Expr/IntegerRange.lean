import Apprentice.Proofs.Expr.Returns
import Mathlib.Data.List.Basic

/-!
# The integers of an expression

A sign in front of an integer literal goes into the literal, so literals are negated while a source
is read. The least word has no opposite. But no token is negative, and from tokens that are not
negative no number of signs, with or without brackets between them, makes the least word: the
integers of all trees that are built stay in the range that is symmetric about zero.
-/

namespace Apprentice

namespace Expr

/-! ### Integers with an opposite -/

/-- Whether an integer is in the range that is symmetric about zero. -/
def HasOpposite (n : Int64) : Prop :=
  -Int64.maxValue.toInt ≤ n.toInt ∧ n.toInt ≤ Int64.maxValue.toInt

variable {n : Int64} {e target left tree : Expr} {es : List Expr}

theorem hasOpposite_of_nonneg (hnonneg : 0 ≤ n.toInt) : HasOpposite n := by
  have hle := n.toInt_le
  exact ⟨by omega, hle⟩

theorem HasOpposite.toInt_neg (hopposite : HasOpposite n) : (-n).toInt = -n.toInt := by
  obtain ⟨hle, hge⟩ := hopposite
  rw [Int64.toInt_maxValue] at hle hge
  rw [Int64.toInt_neg]
  exact Int.bmod_eq_of_le (by omega) (by omega)

theorem HasOpposite.neg (hopposite : HasOpposite n) : HasOpposite (-n) := by
  obtain ⟨hle, hge⟩ := id hopposite
  rw [HasOpposite, hopposite.toInt_neg]
  exact ⟨by omega, by omega⟩

theorem HasOpposite.ne_minValue (hopposite : HasOpposite n) : n ≠ Int64.minValue := by
  rintro rfl
  have hle := hopposite.1
  rw [Int64.toInt_minValue, Int64.toInt_maxValue] at hle
  omega

/-! ### Trees -/

mutual

def integers : Expr → List Int64
  | .literal (.int n) => [n]
  | .literal _ => []
  | .attr _ _ => []
  | .index target position => integers target ++ integers position
  | .list items => integersOf items
  | .unary _ operand => integers operand
  | .binary _ left right => integers left ++ integers right
  | .call _ arguments => integersOf arguments

def integersOf : List Expr → List Int64
  | [] => []
  | e :: es => integers e ++ integersOf es

end

-- Derives the equations of the recursion once, for all the proofs that rewrite with them.
attribute [local simp] integers integersOf

/-- Whether all integer literals of an expression have an opposite. -/
def Negatable (e : Expr) : Prop :=
  ∀ n ∈ e.integers, HasOpposite n

theorem mem_integersOf : n ∈ integersOf es ↔ ∃ e ∈ es, n ∈ e.integers := by
  induction es with
  | nil => simp [integersOf]
  | cons e es ih => simp [integersOf, ih]

theorem negatable_int : Negatable (.literal (.int n)) ↔ HasOpposite n := by
  simp [Negatable, integers]

theorem Negatable.ne_minValue {value : Literal} (hnegatable : Negatable (.literal value)) :
    value ≠ .int Int64.minValue := by
  rintro rfl
  exact (negatable_int.mp hnegatable).ne_minValue rfl

theorem negatable_binary {op : BinaryOp} {right : Expr} :
    Negatable (.binary op left right) ↔ left.Negatable ∧ right.Negatable := by
  rw [Negatable, integers]
  exact List.forall_mem_append

theorem negatable_index {position : Expr} :
    Negatable (.index target position) ↔ target.Negatable ∧ position.Negatable := by
  rw [Negatable, integers]
  exact List.forall_mem_append

theorem negatable_negate (he : e.Negatable) : (negate e).Negatable := by
  unfold negate
  split
  next n => exact negatable_int.mpr (negatable_int.mp he).neg
  next =>
    intro n hn
    rw [integers] at hn
    exact he n hn

theorem negatable_whole (enclosure : Enclosure) (hall : ∀ e ∈ es, e.Negatable) :
    (enclosure.whole es).Negatable := by
  intro n hn
  cases enclosure <;>
  · rw [Enclosure.whole, integers] at hn
    obtain ⟨e, he, hmem⟩ := mem_integersOf.mp hn
    exact hall e he n hmem

/-! ### Tokens -/

def Unsigned (tokens : List Token) : Prop :=
  ∀ n offset, ⟨.int n, offset⟩ ∈ tokens → 0 ≤ n.toInt

theorem charLexeme?_ne_int (c : Char) : charLexeme? c ≠ some (.int n) := by
  unfold charLexeme?
  split <;> exact nofun

theorem pairLexeme?_ne_int (c d : Char) : pairLexeme? c d ≠ some (.int n) := by
  unfold pairLexeme?
  split <;> exact nofun

theorem nonneg_of_readLexeme {offset : Nat} {c : Char} {cs : List Char} {reading : Reading cs}
    (hok : readLexeme offset c cs = .ok reading) (hint : reading.lexeme = .int n) :
    0 ≤ n.toInt := by
  unfold readLexeme at hok
  split at hok
  next =>
    cases hok
    cases hint
  next =>
    split at hok
    next =>
      dsimp only at hok
      split at hok
      next hle =>
        cases hok
        cases hint
        rw [Int64.toInt_maxValue] at hle
        rw [Int64.toInt_ofNat_of_lt (by omega)]
        exact Int.natCast_nonneg _
      next => cases hok
    next =>
      split at hok
      next =>
        dsimp only at hok
        split at hok
        next => cases hok
        next =>
          cases hok
          cases hint
      next =>
        split at hok
        next =>
          split at hok
          next lexeme hlexeme =>
            cases hok
            exact absurd (hlexeme.trans (congrArg some hint)) (charLexeme?_ne_int c)
          next => cases hok
        next d rest =>
          split at hok
          next lexeme _ hlexeme =>
            cases hok
            exact absurd (hlexeme.trans (congrArg some hint)) (pairLexeme?_ne_int c d)
          next lexeme _ hlexeme =>
            cases hok
            exact absurd (hlexeme.trans (congrArg some hint)) (charLexeme?_ne_int c)
          next => cases hok

theorem unsigned_of_tokensFrom {offset : Nat} {cs : List Char} {tokens : List Token}
    (hok : tokensFrom offset cs = .ok tokens) : Unsigned tokens := by
  fun_induction tokensFrom offset cs generalizing tokens with
  | case1 offset =>
      cases hok
      exact nofun
  | case2 offset c cs hblank ih => exact ih hok
  | case3 offset c cs hblank ih =>
      obtain ⟨reading, hreading, hok⟩ := bind_eq_ok hok
      obtain ⟨more, hmore, hok⟩ := bind_eq_ok hok
      cases hok
      intro n place hmem
      obtain heq | hmem := List.mem_cons.mp hmem
      · exact nonneg_of_readLexeme hreading (Token.mk.inj heq).1.symm
      · exact ih reading hmore n place hmem

namespace Descent

variable {depth inner : Nat} {frame next : Frame} {frames : List Frame} {s t : State}
  {tokens : List Token} {before : Option (Expr × BinaryOp)}

/-! ### Trees in hand -/

def Frame.trees : Frame → List Expr
  | .chain _ _ before | .comparison before => (before.map Prod.fst).toList
  | .subscripted _ target => target.toList
  | .enclosed _ items => items
  | .negation | .sign | .group => []

def State.trees : State → List Expr
  | .call _ frames _ _ => frames.flatMap Frame.trees
  | .back tree frames _ _ => tree :: frames.flatMap Frame.trees
  | .done (.ok tree) => [tree]
  | .done (.error _) | .underflow => []

/-- Whether no integer that is in hand, or to come, is without an opposite. -/
structure State.Negatable (s : State) : Prop where
  trees : ∀ e ∈ s.trees, e.Negatable
  tokens : Unsigned s.tokens

theorem negatable_joined (hbefore : ∀ e ∈ (before.map Prod.fst).toList, e.Negatable)
    (htree : tree.Negatable) : (joined before tree).Negatable := by
  cases before with
  | none => exact htree
  | some before => exact negatable_binary.mpr ⟨hbefore _ (by simp), htree⟩

theorem negatable_selected {target : Option Expr} (htarget : ∀ e ∈ target.toList, e.Negatable)
    (htree : tree.Negatable) : (selected target tree).Negatable := by
  cases target with
  | none => exact htree
  | some target => exact negatable_index.mpr ⟨htarget _ (by simp), htree⟩

theorem Frame.negatable_made (hframe : ∀ e ∈ frame.trees, e.Negatable) (htree : tree.Negatable) :
    (frame.made tree).Negatable := by
  cases frame with
  | chain level base before => exact negatable_joined hframe htree
  | comparison before => exact negatable_joined hframe htree
  | negation => exact htree
  | sign => exact negatable_negate htree
  | subscripted base target => exact negatable_selected hframe htree
  | group => exact htree
  | enclosed enclosure items =>
      refine negatable_whole enclosure fun e he => ?_
      obtain he | he := List.mem_append.mp he
      · exact hframe e he
      · exact List.mem_singleton.mp he ▸ htree

theorem Frame.Takes.negatable (htakes : frame.Takes tree depth inner next)
    (hframe : ∀ e ∈ frame.trees, e.Negatable) (htree : tree.Negatable) :
    ∀ e ∈ next.trees, e.Negatable := by
  cases htakes with
  | chain _ level base before op =>
      exact List.forall_mem_singleton.mpr (negatable_joined hframe htree)
  | comparison => exact List.forall_mem_singleton.mpr htree
  | subscripted _ base target =>
      exact List.forall_mem_singleton.mpr (negatable_selected hframe htree)
  | enclosed =>
      exact List.forall_mem_append.mpr ⟨hframe, List.forall_mem_singleton.mpr htree⟩

theorem Frame.Begins.trees_eq (hbegins : frame.Begins depth inner) : frame.trees = [] := by
  cases hbegins <;> rfl

theorem Leaf.negatable (hleaf : Leaf tokens tree) (htokens : Unsigned tokens) :
    tree.Negatable := by
  cases hleaf with
  | int hmem => exact negatable_int.mpr (hasOpposite_of_nonneg (htokens _ _ hmem))
  | @literal value hint =>
      cases value with
      | int n => exact absurd rfl (hint n)
      | bool | str | null => exact nofun
  | attr => exact nofun
  | empty enclosure => exact negatable_whole enclosure nofun

theorem Move.negatable (hmove : Move s t) (hs : s.Negatable) : t.Negatable := by
  have hsuffix := hmove.tokens_suffix
  refine ⟨?_, fun n offset hmem => hs.tokens n offset (hsuffix.subset hmem)⟩
  cases hmove with
  | tighten => exact hs.trees
  | wait _ _ frames hbegins =>
      intro e he
      rw [State.trees, List.flatMap_cons, hbegins.trees_eq] at he
      exact hs.trees e he
  | leaf _ frames _ hleaf =>
      exact List.forall_mem_cons.mpr ⟨hleaf.negatable hs.tokens, hs.trees⟩
  | goOn _ frames htakes =>
      obtain ⟨htree, hframes⟩ := List.forall_mem_cons.mp hs.trees
      rw [List.flatMap_cons] at hframes
      obtain ⟨hframe, hframes⟩ := List.forall_mem_append.mp hframes
      rw [State.trees, List.flatMap_cons]
      exact List.forall_mem_append.mpr ⟨htakes.negatable hframe htree, hframes⟩
  | finish tree frames =>
      obtain ⟨htree, hframes⟩ := List.forall_mem_cons.mp hs.trees
      rw [List.flatMap_cons] at hframes
      obtain ⟨hframe, hframes⟩ := List.forall_mem_append.mp hframes
      exact List.forall_mem_cons.mpr ⟨Frame.negatable_made hframe htree, hframes⟩
  | accept => exact hs.trees
  | stay => exact hs.trees
  | underflow | fail | stuck => exact nofun

theorem negatable_start (htokens : Unsigned tokens) : (start tokens).Negatable := by
  rw [start]
  split
  next => exact ⟨List.forall_mem_nil _, fun _ _ hmem => absurd hmem List.not_mem_nil⟩
  next => exact ⟨List.forall_mem_nil _, htokens⟩

theorem negatable_run (htokens : Unsigned tokens) (endOffset k : Nat) :
    ((step endOffset)^[k] (start tokens)).Negatable :=
  run_keeps Move.negatable (negatable_start htokens) endOffset k

end Descent

/-! ### Sources -/

theorem negatable_of_parse {endOffset : Nat} {source : String} {tokens : List Token}
    (htokens : tokenize source = .ok tokens) (hparse : parse endOffset tokens = .ok e) :
    e.Negatable := by
  obtain ⟨k, hk⟩ := (Descent.above_start endOffset tokens).iterate
  have hend := Descent.negatable_run (unsigned_of_tokensFrom htokens) endOffset k
  rw [hk, hparse] at hend
  exact hend.trees e List.mem_cons_self

theorem negatable_of_compile {arity : Arity} {source : String} {p : Predicate}
    (hok : Predicate.compile arity source = .ok p) : p.root.Negatable := by
  obtain ⟨root, htree, hok⟩ := bind_eq_ok hok
  obtain rfl := Except.ok.inj hok
  obtain ⟨tokens, htokens, htree⟩ := bind_eq_ok htree
  obtain ⟨parsed, hparse, htree⟩ := bind_eq_ok htree
  obtain ⟨-, -, htree⟩ := bind_eq_ok htree
  obtain rfl := Except.ok.inj htree
  exact negatable_of_parse htokens hparse

open Descent in
/-- All integers of all trees that are built of a source, whether it is read to its end or not, are
in the range that is symmetric about zero. So the sign of a literal never overflows. -/
theorem negatable_descent (endOffset : Nat) (source : String) (tokens : List Token)
    (htokens : tokenize source = .ok tokens) :
    (∀ e, parse endOffset tokens = .ok e → e.Negatable) ∧
    ∀ k, (∀ e ∈ ((step endOffset)^[k] (start tokens)).trees, e.Negatable) ∧
      (∀ tree frame frames depth rest, (step endOffset)^[k] (start tokens) =
        .back tree (frame :: frames) depth rest → (frame.made tree).Negatable) ∧
      ∀ n frames depth rest, (step endOffset)^[k] (start tokens) =
        .back (.literal (.int n)) (.sign :: frames) depth rest → (-n).toInt = -n.toInt := by
  refine ⟨fun e hparse => negatable_of_parse htokens hparse, fun k => ?_⟩
  have hk := negatable_run (unsigned_of_tokensFrom htokens) endOffset k
  refine ⟨hk.trees, fun tree frame frames depth rest hback => ?_,
    fun n frames depth rest hback => ?_⟩
  · rw [hback] at hk
    obtain ⟨htree, hframes⟩ := List.forall_mem_cons.mp hk.trees
    rw [List.flatMap_cons] at hframes
    exact Frame.negatable_made (List.forall_mem_append.mp hframes).1 htree
  · rw [hback] at hk
    exact (negatable_int.mp (List.forall_mem_cons.mp hk.trees).1).toInt_neg

open Descent in
/-- The opposite of the greatest word is negated once more. -/
theorem negatable_descent_signs :
    ∃ tokens, tokenize "--9223372036854775807" = .ok tokens ∧
      parse 21 tokens = .ok (.literal (.int 9223372036854775807)) ∧
      Expr.Negatable (.literal (.int 9223372036854775807)) ∧
      ∃ k frames, (step 21)^[k] (start tokens) =
          .back (.literal (.int (-9223372036854775807))) (.sign :: frames) 2 [] ∧
        (-(-9223372036854775807 : Int64)).toInt = -(-9223372036854775807 : Int64).toInt := by
  have htokens : tokenize "--9223372036854775807" =
    .ok [⟨.minus, 0⟩, ⟨.minus, 1⟩, ⟨.int 9223372036854775807, 2⟩] := by decide +kernel
  have hparse : parse 21 [⟨.minus, 0⟩, ⟨.minus, 1⟩, ⟨.int 9223372036854775807, 2⟩] =
    .ok (.literal (.int 9223372036854775807)) := by cbv
  obtain ⟨hparsed, hruns⟩ := negatable_descent 21 _ _ htokens
  exact ⟨_, htokens, hparse, hparsed _ hparse, 13, _, rfl, (hruns 13).2.2 _ _ _ _ rfl⟩

end Expr

end Apprentice
