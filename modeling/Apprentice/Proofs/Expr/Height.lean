import Apprentice.Proofs.Expr.Descent

/-!
# How high trees get

The limit counts levels of the source: nested expressions, signs and negations, and the links of
chains. Of the tree it counts less. A chain keeps its levels only to its end, and all of its links
come to lie above its first operand, which had all the room to itself; a comparison costs nothing at
all. So on the way from the root of a tree down to a leaf, the edges to right operands, to items and
to the operands of signs and negations are counted, and there are fewer of these than the limit. The
edges to left operands, to the sides of a comparison and to what a subscript is taken of are not.
-/

namespace Apprentice.Expr

/-! ### Ways down a tree -/

inductive Edge where
  | target
  | position
  | item
  | operand
  | left (op : BinaryOp)
  | right (op : BinaryOp)

/-- The operators of chains; the others are comparisons. -/
def BinaryOp.isLinked : BinaryOp → Bool
  | add | sub | mul | div | rem | and | or => true
  | eq | ne | lt | le | gt | ge | isIn => false

/-- Whether the limit counts a part as one level deeper. -/
def Edge.isCounted : Edge → Bool
  | position | item | operand => true
  | right op => op.isLinked
  | target | left _ => false

mutual

/-- The greatest weight of a way from the root of a tree to a leaf. -/
def weight (w : Edge → Nat) : Expr → Nat
  | .literal _ => 0
  | .attr _ _ => 0
  | .index target position => max (weight w target + w .target) (weight w position + w .position)
  | .list items => weightOf w items
  | .unary _ operand => weight w operand + w .operand
  | .binary op left right => max (weight w left + w (.left op)) (weight w right + w (.right op))
  | .call _ arguments => weightOf w arguments

def weightOf (w : Edge → Nat) : List Expr → Nat
  | [] => 0
  | e :: es => max (weight w e + w .item) (weightOf w es)

end

/-- How many levels there are below the root of a tree. -/
def height : Expr → Nat :=
  weight fun _ => 1

/-- How many levels that the limit counts there are on one way down. -/
def counted : Expr → Nat :=
  weight fun edge => if edge.isCounted then 1 else 0

def uncounted : Expr → Nat :=
  weight fun edge => if edge.isCounted then 0 else 1

variable {w v : Edge → Nat} {endOffset room inner total bound n : Nat} {es : List Expr}
  {e left right target position : Expr} {op : BinaryOp} {level : Chain} {c : Construct}

theorem weightOf_le_iff : weightOf w es ≤ n ↔ ∀ e ∈ es, weight w e + w .item ≤ n := by
  induction es with
  | nil => simp [weightOf]
  | cons e es ih => rw [weightOf, Nat.max_le, ih, List.forall_mem_cons]

mutual

theorem weight_add_le (e : Expr) :
    weight (fun edge => w edge + v edge) e ≤ weight w e + weight v e := by
  match e with
  | .literal _ | .attr _ _ => simp only [weight, Nat.le_refl]
  | .index target position =>
      have htarget := weight_add_le target
      have hposition := weight_add_le position
      simp only [weight]
      omega
  | .list items =>
      simp only [weight]
      exact weightOf_add_le items
  | .unary _ operand =>
      have hoperand := weight_add_le operand
      simp only [weight]
      omega
  | .binary op left right =>
      have hleft := weight_add_le left
      have hright := weight_add_le right
      simp only [weight]
      omega
  | .call _ arguments =>
      simp only [weight]
      exact weightOf_add_le arguments

theorem weightOf_add_le (es : List Expr) :
    weightOf (fun edge => w edge + v edge) es ≤ weightOf w es + weightOf v es := by
  match es with
  | [] => simp only [weightOf, Nat.le_refl]
  | e :: es =>
      have he := weight_add_le e
      have hes := weightOf_add_le es
      simp only [weightOf]
      omega

end

theorem height_le (e : Expr) : e.height ≤ e.counted + e.uncounted := by
  have hsplit : (fun _ => 1 : Edge → Nat) =
      fun edge => (if edge.isCounted then 1 else 0) + if edge.isCounted then 0 else 1 := by
    funext edge
    split <;> rfl
  rw [height, hsplit]
  exact weight_add_le e

theorem height_binary : (Expr.binary op left right).height = max left.height right.height + 1 := by
  simp only [height, weight]
  omega

theorem counted_binary (op : BinaryOp) : (Expr.binary op left right).counted =
    max left.counted (right.counted + if op.isLinked then 1 else 0) := by
  rw [counted, weight]
  rfl

theorem height_index : (Expr.index target position).height =
    max target.height position.height + 1 := by
  simp only [height, weight]
  omega

theorem counted_index :
    (Expr.index target position).counted = max target.counted (position.counted + 1) := by
  rw [counted, weight]
  rfl

theorem height_unary (op : UnaryOp) : (Expr.unary op e).height = e.height + 1 := by
  simp only [height, weight]

theorem counted_unary (op : UnaryOp) : (Expr.unary op e).counted = e.counted + 1 := by
  rw [counted, weight]
  rfl

theorem height_negate_le (e : Expr) : (negate e).height ≤ e.height + 1 := by
  unfold negate
  split
  next => exact Nat.zero_le _
  next => exact Nat.le_of_eq (height_unary .neg)

theorem counted_negate_le (e : Expr) : (negate e).counted ≤ e.counted + 1 := by
  unfold negate
  split
  next => exact Nat.zero_le _
  next => exact Nat.le_of_eq (counted_unary .neg)

theorem isLinked_of_mem_marks {m : Lexeme} (hmark : (m, op) ∈ level.marks) :
    op.isLinked = true := by
  have hlinked : ∀ entry ∈ level.marks, entry.2.isLinked = true := by cases level <;> decide
  exact hlinked _ hmark

theorem isLinked_of_mem_comparisonMarks {m : Lexeme} (hmark : (m, op) ∈ comparisonMarks) :
    op.isLinked = false := by
  have hlinked : ∀ entry ∈ comparisonMarks, entry.2.isLinked = false := by decide
  exact hlinked _ hmark

/-! ### The greatest heights -/

/-- How high a signed expression gets with some room: a list of one expression with one level less,
subscripts of it as long as there is room for a nested expression, and what that has of its own. -/
def tallest : Nat → Nat
  | 0 => 0
  | room + 1 => tallest room + (4 * room + 2) + room

def Construct.tallest : Construct → Nat → Nat
  | .primary, 0 => 0
  | .primary, room + 1 => Expr.tallest room + (4 * room + 2)
  | .subscripted, room | .signed, room => Expr.tallest room
  | .chain .product, room => Expr.tallest room + room
  | .chain .sum, room => Expr.tallest room + 2 * room
  | .comparison, room | .negation, room => Expr.tallest room + 2 * room + 1
  | .chain .conjunction, room => Expr.tallest room + 3 * room + 1
  | .chain .disjunction, room => Expr.tallest room + 4 * room + 1

theorem tallest_mono (hle : inner ≤ room) : tallest inner ≤ tallest room := by
  induction hle with
  | refl => exact Nat.le_refl _
  | step _ ih =>
      rw [tallest]
      omega

theorem Construct.tallest_mono (hle : inner ≤ room) : c.tallest inner ≤ c.tallest room := by
  have hbase := Expr.tallest_mono hle
  cases c with
  | chain level => cases level <;> simp only [tallest] <;> omega
  | primary =>
      cases inner with
      | zero => exact Nat.zero_le _
      | succ inner =>
          obtain ⟨room, rfl⟩ := Nat.exists_eq_add_one.mpr (Nat.lt_of_lt_of_le inner.succ_pos hle)
          have hbase := Expr.tallest_mono (Nat.le_of_succ_le_succ hle)
          simp only [tallest]
          omega
  | _ =>
      simp only [tallest]
      omega

/-- All links of a chain come to lie above its first operand. -/
theorem Construct.tallest_chain (level : Chain) (room : Nat) :
    (Construct.chain level).tallest room = level.operands.tallest room + room := by
  cases level <;> simp only [tallest, Chain.operands] <;> omega

theorem Construct.tallest_subscripted (room : Nat) :
    Construct.subscripted.tallest room = Construct.primary.tallest room + (room - 1) := by
  cases room <;> rfl

/-- A sign or a negation is no better than what there is room for anyway. -/
theorem tallest_lt (room : Nat) : tallest room < tallest (room + 1) := by
  rw [tallest]
  omega

/-! ### Trees of the parsers -/

/-- Whether a tree stays below what a construct may reach with some room. -/
structure Construct.Bounds (c : Construct) (room : Nat) (e : Expr) : Prop where
  counted : e.counted ≤ room
  height : e.height ≤ c.tallest room

def Nested (room : Nat) (e : Expr) : Prop :=
  ∃ inner, room = inner + 1 ∧ Construct.expression.Bounds inner e

theorem Nested.height_lt (hnested : Nested room e) :
    e.height + 1 ≤ Construct.primary.tallest room := by
  obtain ⟨inner, rfl, hbounds⟩ := hnested
  have hheight := hbounds.height
  simp only [Construct.tallest] at hheight ⊢
  omega

theorem Nested.counted_lt (hnested : Nested room e) : e.counted + 1 ≤ room := by
  obtain ⟨inner, rfl, hbounds⟩ := hnested
  exact Nat.succ_le_succ hbounds.counted

theorem inner_of_deeper {tokens : List Token} (hok : deeper endOffset room tokens = .ok inner) :
    room = inner + 1 := by
  cases room with
  | zero => cases hok
  | succ left => rw [Except.ok.inj hok]

theorem bounds_leaf (hleaf : ∀ w, weight w e = 0) (c : Construct) (room : Nat) :
    c.Bounds room e :=
  ⟨Nat.le_trans (Nat.le_of_eq (hleaf _)) (Nat.zero_le _),
    Nat.le_trans (Nat.le_of_eq (hleaf _)) (Nat.zero_le _)⟩

theorem Construct.Bounds.mono {d : Construct} (hbounds : c.Bounds room e)
    (hle : c.tallest room ≤ d.tallest room) : d.Bounds room e :=
  ⟨hbounds.counted, Nat.le_trans hbounds.height hle⟩

theorem Construct.Bounds.not (hbounds : Construct.negation.Bounds inner e) :
    Construct.negation.Bounds (inner + 1) (.unary .not e) := by
  obtain ⟨hcounted, hheight⟩ := hbounds
  have hlt := tallest_lt inner
  refine ⟨by rw [counted_unary]; omega, ?_⟩
  rw [height_unary]
  simp only [tallest] at hheight ⊢
  omega

theorem Construct.Bounds.negate (hbounds : Construct.signed.Bounds inner e) :
    Construct.signed.Bounds (inner + 1) (negate e) := by
  obtain ⟨hcounted, hheight⟩ := hbounds
  have hlt := tallest_lt inner
  have hcountedLe := counted_negate_le e
  have hheightLe := height_negate_le e
  refine ⟨by omega, ?_⟩
  simp only [tallest] at hheight ⊢
  omega

theorem Construct.Bounds.compared (hleft : (Construct.chain .sum).Bounds room left)
    (hright : (Construct.chain .sum).Bounds room right) (hop : op.isLinked = false) :
    Construct.comparison.Bounds room (.binary op left right) := by
  have hleftHeight := hleft.height
  have hrightHeight := hright.height
  refine ⟨?_, ?_⟩
  · rw [counted_binary, hop]
    exact Nat.max_le.mpr ⟨hleft.counted, hright.counted⟩
  · rw [height_binary]
    simp only [tallest] at hleftHeight hrightHeight ⊢
    omega

theorem bounds_whole (enclosure : Enclosure) (hall : ∀ e ∈ es, Nested room e) :
    Construct.primary.Bounds room (enclosure.whole es) := by
  have hcounted : weightOf (fun edge => if edge.isCounted then 1 else 0) es ≤ room :=
    weightOf_le_iff.mpr fun e he => (hall e he).counted_lt
  have hheight : weightOf (fun _ => 1) es ≤ Construct.primary.tallest room :=
    weightOf_le_iff.mpr fun e he => (hall e he).height_lt
  cases enclosure with
  | list => exact ⟨by rw [Enclosure.whole, counted, weight]; exact hcounted,
      by rw [Enclosure.whole, height, weight]; exact hheight⟩
  | call => exact ⟨by rw [Enclosure.whole, counted, weight]; exact hcounted,
      by rw [Enclosure.whole, height, weight]; exact hheight⟩

theorem bounds_of_attributeAccess {subject : Variable} {tokens : List Token}
    {p : Parsed Token Expr tokens.length}
    (hok : attributeAccess endOffset subject tokens = .ok p) (room : Nat) :
    Construct.primary.Bounds room p.value := by
  obtain ⟨⟨field, hvalue⟩, -⟩ := Descent.access_of_attributeAccess hok
  rw [hvalue]
  exact bounds_leaf (fun w => by rw [weight]) _ room

-- The recursion is that of the parsers.
mutual

theorem bounds_of_expression {room : Nat} {tokens : List Token}
    {p : Parsed Token Expr tokens.length} (hok : expression endOffset room tokens = .ok p) :
    Nested room p.value := by
  rw [expression] at hok
  obtain ⟨inner, hinner, hok⟩ := bind_eq_ok hok
  exact ⟨inner, inner_of_deeper hinner, bounds_of_chain hok⟩
termination_by (tokens.length, 14)

theorem bounds_of_chain {room : Nat} {tokens : List Token} {level : Chain}
    {p : Parsed Token Expr tokens.length} (hok : chain endOffset level room tokens = .ok p) :
    (Construct.chain level).Bounds room p.value := by
  rw [chain] at hok
  obtain ⟨first, hfirst, hok⟩ := bind_eq_ok hok
  obtain ⟨whole, hwhole, hok⟩ := bind_eq_ok hok
  cases hok
  have hshorter := first.shorter
  have hfirst := bounds_of_operand hfirst
  have hwhole := bounds_of_links hwhole (Nat.le_refl room) (Nat.le_refl _) hfirst.counted
    hfirst.height
  exact ⟨hwhole.1, by rw [Construct.tallest_chain]; exact hwhole.2⟩
termination_by (tokens.length, level.rank + 1)

theorem bounds_of_links {room total bound : Nat} {tokens : List Token} {level : Chain} {left : Expr}
    {p : Parsed Token Expr (tokens.length + 1)}
    (hok : links endOffset level room left tokens = .ok p) (hle : room ≤ total)
    (hbound : level.operands.tallest total ≤ bound) (hcounted : left.counted ≤ total)
    (hheight : left.height ≤ bound) :
    p.value.counted ≤ total ∧ p.value.height ≤ bound + room := by
  match tokens, p, hok with
  | [], p, hok =>
    rw [links] at hok
    cases hok
    exact ⟨hcounted, Nat.le_add_right_of_le hheight⟩
  | token :: rest, p, hok =>
    rw [links] at hok
    split at hok
    next =>
      cases hok
      exact ⟨hcounted, Nat.le_add_right_of_le hheight⟩
    next op hop =>
      obtain ⟨inner, hinner, hok⟩ := bind_eq_ok hok
      obtain ⟨right, hright, hok⟩ := bind_eq_ok hok
      obtain ⟨whole, hwhole, hok⟩ := bind_eq_ok hok
      cases hok
      have hshorter := right.shorter
      obtain rfl := inner_of_deeper hinner
      have hright := bounds_of_operand hright
      have hrightCounted := hright.counted
      have hrightHeight := hright.height
      have hmono : level.operands.tallest inner ≤ level.operands.tallest total :=
        Construct.tallest_mono (by omega)
      have hlinked := isLinked_of_mem_marks (Chain.operator?_eq_some.mp hop)
      have hjoined : (Expr.binary op left right.value).counted ≤ total := by
        rw [counted_binary, hlinked, if_pos rfl]
        omega
      have hraised : (Expr.binary op left right.value).height ≤ bound + 1 := by
        rw [height_binary]
        omega
      obtain ⟨hwholeCounted, hwholeHeight⟩ := bounds_of_links hwhole (Nat.le_of_succ_le hle)
        (Nat.le_succ_of_le hbound) hjoined hraised
      exact ⟨hwholeCounted, Nat.le_trans hwholeHeight (by omega)⟩
termination_by (tokens.length, 0)

theorem bounds_of_operand {room : Nat} {tokens : List Token} {level : Chain}
    {p : Parsed Token Expr tokens.length} (hok : operand endOffset level room tokens = .ok p) :
    level.operands.Bounds room p.value := by
  cases level <;> rw [operand] at hok
  case disjunction => exact bounds_of_chain hok
  case conjunction => exact bounds_of_negation hok
  case sum => exact bounds_of_chain hok
  case product => exact bounds_of_signed hok
termination_by (tokens.length, level.rank)

theorem bounds_of_negation {room : Nat} {tokens : List Token}
    {p : Parsed Token Expr tokens.length} (hok : negation endOffset room tokens = .ok p) :
    Construct.negation.Bounds room p.value := by
  match tokens, p, hok with
  | [], p, hok =>
    rw [negation] at hok
    exact (bounds_of_comparison hok).mono (Nat.le_refl _)
  | token :: rest, p, hok =>
    rw [negation] at hok
    split at hok
    next =>
      obtain ⟨inner, hinner, hok⟩ := bind_eq_ok hok
      obtain ⟨operand, hoperand, hok⟩ := bind_eq_ok hok
      cases hok
      obtain rfl := inner_of_deeper hinner
      exact (bounds_of_negation hoperand).not
    next => exact (bounds_of_comparison hok).mono (Nat.le_refl _)
termination_by (tokens.length, 9)

theorem bounds_of_comparison {room : Nat} {tokens : List Token}
    {p : Parsed Token Expr tokens.length} (hok : comparison endOffset room tokens = .ok p) :
    Construct.comparison.Bounds room p.value := by
  rw [comparison] at hok
  obtain ⟨left, hleft, hok⟩ := bind_eq_ok hok
  have hleft := bounds_of_chain hleft
  split at hok
  next =>
    cases hok
    exact hleft.mono (Nat.le_succ _)
  next token rest hrest =>
    split at hok
    next =>
      cases hok
      exact hleft.mono (Nat.le_succ _)
    next op hop =>
      have hshorter := left.length_tail_lt hrest
      obtain ⟨right, hright, hok⟩ := bind_eq_ok hok
      split at hok
      next => cases hok
      next =>
        cases hok
        exact hleft.compared (bounds_of_chain hright)
          (isLinked_of_mem_comparisonMarks (comparison?_eq_some.mp hop))
termination_by (tokens.length, 8)

theorem bounds_of_signed {room : Nat} {tokens : List Token} {p : Parsed Token Expr tokens.length}
    (hok : signed endOffset room tokens = .ok p) : Construct.signed.Bounds room p.value := by
  match tokens, p, hok with
  | [], p, hok =>
    rw [signed] at hok
    exact (bounds_of_subscripted hok).mono (Nat.le_refl _)
  | token :: rest, p, hok =>
    rw [signed] at hok
    split at hok
    next =>
      obtain ⟨inner, hinner, hok⟩ := bind_eq_ok hok
      obtain ⟨operand, hoperand, hok⟩ := bind_eq_ok hok
      cases hok
      obtain rfl := inner_of_deeper hinner
      exact (bounds_of_signed hoperand).negate
    next => exact (bounds_of_subscripted hok).mono (Nat.le_refl _)
termination_by (tokens.length, 2)

theorem bounds_of_subscripted {room : Nat} {tokens : List Token}
    {p : Parsed Token Expr tokens.length} (hok : subscripted endOffset room tokens = .ok p) :
    Construct.subscripted.Bounds room p.value := by
  rw [subscripted] at hok
  obtain ⟨target, htarget, hok⟩ := bind_eq_ok hok
  obtain ⟨whole, hwhole, hok⟩ := bind_eq_ok hok
  cases hok
  have hshorter := target.shorter
  have htarget := bounds_of_primary htarget
  have hwhole := bounds_of_subscripts hwhole (Nat.le_refl room) (Nat.le_refl _) htarget.counted
    htarget.height
  exact ⟨hwhole.1, by rw [Construct.tallest_subscripted]; exact hwhole.2⟩
termination_by (tokens.length, 1)

theorem bounds_of_subscripts {room total bound : Nat} {tokens : List Token} {target : Expr}
    {p : Parsed Token Expr (tokens.length + 1)}
    (hok : subscripts endOffset room target tokens = .ok p) (hle : room ≤ total)
    (hbound : Construct.primary.tallest total ≤ bound) (hcounted : target.counted ≤ total)
    (hheight : target.height ≤ bound) :
    p.value.counted ≤ total ∧ p.value.height ≤ bound + (room - 1) := by
  match tokens, p, hok with
  | [], p, hok =>
    rw [subscripts] at hok
    cases hok
    exact ⟨hcounted, Nat.le_add_right_of_le hheight⟩
  | token :: rest, p, hok =>
    rw [subscripts] at hok
    split at hok
    next =>
      obtain ⟨inner, hinner, hok⟩ := bind_eq_ok hok
      obtain ⟨index, hindex, hok⟩ := bind_eq_ok hok
      obtain ⟨close, hclose, hok⟩ := bind_eq_ok hok
      obtain ⟨whole, hwhole, hok⟩ := bind_eq_ok hok
      cases hok
      have hshorter := Nat.lt_trans close.shorter index.shorter
      obtain rfl := inner_of_deeper hinner
      have hindex := bounds_of_expression hindex
      have hindexCounted := hindex.counted_lt
      have hindexHeight := hindex.height_lt
      have hmono : Construct.primary.tallest inner ≤ Construct.primary.tallest total :=
        Construct.tallest_mono (by omega)
      have hselected : (Expr.index target index.value).counted ≤ total := by
        rw [counted_index]
        omega
      have hraised : (Expr.index target index.value).height ≤ bound + 1 := by
        rw [height_index]
        omega
      obtain ⟨hwholeCounted, hwholeHeight⟩ := bounds_of_subscripts hwhole (Nat.le_of_succ_le hle)
        (Nat.le_succ_of_le hbound) hselected hraised
      exact ⟨hwholeCounted, Nat.le_trans hwholeHeight (by omega)⟩
    next =>
      cases hok
      exact ⟨hcounted, Nat.le_add_right_of_le hheight⟩
termination_by (tokens.length, 0)

theorem bounds_of_primary {room : Nat} {tokens : List Token} {p : Parsed Token Expr tokens.length}
    (hok : primary endOffset room tokens = .ok p) : Construct.primary.Bounds room p.value := by
  rw [primary.eq_def] at hok
  split at hok
  next =>
    cases hok
    exact bounds_leaf (fun w => by rw [weight]) _ room
  next =>
    cases hok
    exact bounds_leaf (fun w => by rw [weight]) _ room
  next offset rest =>
    obtain ⟨inner, hinner, hok⟩ := bind_eq_ok hok
    obtain ⟨close, hclose, hok⟩ := bind_eq_ok hok
    cases hok
    have hnested := bounds_of_expression hinner
    exact ⟨Nat.le_of_succ_le hnested.counted_lt, Nat.le_of_succ_le hnested.height_lt⟩
  next offset rest =>
    obtain ⟨items, hitems, hok⟩ := bind_eq_ok hok
    cases hok
    exact bounds_whole .list (bounds_of_enclosed hitems)
  next name offset rest =>
    split at hok
    next =>
      cases hok
      exact bounds_leaf (fun w => by rw [weight]) _ room
    next subject _ hsubject =>
      obtain ⟨access, haccess, hok⟩ := bind_eq_ok hok
      cases hok
      exact bounds_of_attributeAccess haccess room
    next =>
      split at hok
      next inside =>
        split at hok
        next => cases hok
        next function hfunction =>
          obtain ⟨arguments, harguments, hok⟩ := bind_eq_ok hok
          cases hok
          exact bounds_whole (.call function) (bounds_of_enclosed harguments)
      next => cases hok
  next => cases hok
termination_by (tokens.length, 0)
decreasing_by
  all_goals
    subst_vars
    simp_wf
    omega

theorem bounds_of_enclosed {room : Nat} {tokens : List Token} {close : Lexeme}
    {expected : Expectation} {p : Parsed Token (List Expr) tokens.length}
    (hok : enclosed endOffset room close expected tokens = .ok p) :
    ∀ e ∈ p.value, Nested room e := by
  match tokens, p, hok with
  | [], p, hok =>
    rw [enclosed] at hok
    exact bounds_of_items hok
  | token :: rest, p, hok =>
    rw [enclosed] at hok
    split at hok
    next =>
      cases hok
      exact nofun
    next => exact bounds_of_items hok
termination_by (tokens.length, 16)

theorem bounds_of_items {room : Nat} {tokens : List Token} {close : Lexeme}
    {expected : Expectation} {p : Parsed Token (List Expr) tokens.length}
    (hok : items endOffset room close expected tokens = .ok p) : ∀ e ∈ p.value, Nested room e := by
  rw [items] at hok
  obtain ⟨first, hfirst, hok⟩ := bind_eq_ok hok
  have hfirst := bounds_of_expression hfirst
  split at hok
  next => cases hok
  next token rest hrest =>
    have hshorter := first.length_tail_lt hrest
    split at hok
    next =>
      cases hok
      exact List.forall_mem_singleton.mpr hfirst
    next =>
      split at hok
      next =>
        obtain ⟨others, hothers, hok⟩ := bind_eq_ok hok
        cases hok
        exact List.forall_mem_cons.mpr ⟨hfirst, bounds_of_items hothers⟩
      next => cases hok
termination_by (tokens.length, 15)

end

theorem nested_of_parse {endOffset : Nat} {tokens : List Token} {e : Expr}
    (hok : parse endOffset tokens = .ok e) : Nested maxDepth e := by
  rw [parse] at hok
  split at hok
  next => cases hok
  next =>
    obtain ⟨whole, hwhole, hok⟩ := bind_eq_ok hok
    split at hok
    next =>
      cases hok
      exact bounds_of_expression hwhole
    next => cases hok

end Apprentice.Expr
