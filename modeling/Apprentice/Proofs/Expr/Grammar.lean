import Apprentice.Expr.Parser

/-!
# The grammar of meaning expressions

Which lexemes make up an expression, and which tree they stand for, said without saying how they are
read. The marks of the operators and the names are given as tables. A chain is a first operand and
any number of links, and its tree is joined from the left; a comparison has two sides at most, so
comparisons do not chain.

A reader that never goes back gets along with this grammar because of two things: which lexemes a
phrase may begin with, and which ones would be taken for more of it if they came after it.
-/

namespace Apprentice.Expr

/-! ### Tables -/

def Chain.marks : Chain → List (Lexeme × BinaryOp)
  | disjunction => [(.ident "or", .or), (.orOr, .or)]
  | conjunction => [(.ident "and", .and), (.andAnd, .and)]
  | sum => [(.plus, .add), (.minus, .sub)]
  | product => [(.star, .mul), (.slash, .div), (.percent, .rem)]

def comparisonMarks : List (Lexeme × BinaryOp) :=
  [(.eqEq, .eq), (.notEq, .ne), (.lt, .lt), (.le, .le), (.gt, .gt), (.ge, .ge),
    (.ident "in", .isIn)]

def negationMarks : List Lexeme :=
  [.ident "not", .bang]

def literalNames : List (String × Literal) :=
  [("True", .bool true), ("true", .bool true), ("False", .bool false), ("false", .bool false),
    ("None", .null), ("none", .null), ("null", .null)]

theorem Chain.operator?_eq_some {level : Chain} {m : Lexeme} {op : BinaryOp} :
    level.operator? m = some op ↔ (m, op) ∈ level.marks := by
  rw [operator?.eq_def]
  split
  case h_10 _ _ hother => cases level <;> simp_all [marks]
  all_goals simp [marks, eq_comm]

theorem comparison?_eq_some {m : Lexeme} {op : BinaryOp} :
    comparison? m = some op ↔ (m, op) ∈ comparisonMarks := by
  rw [comparison?.eq_def]
  split
  case h_8 => simp_all [comparisonMarks]
  all_goals simp [comparisonMarks, eq_comm]

theorem isNegation_iff {m : Lexeme} : isNegation m = true ↔ m ∈ negationMarks := by
  rw [isNegation.eq_def]
  split <;> simp_all [negationMarks]

theorem namedLiteral?_eq_some {name : String} {value : Literal} :
    namedLiteral? name = some value ↔ (name, value) ∈ literalNames := by
  rw [namedLiteral?.eq_def]
  split
  case h_8 => simp_all [literalNames]
  all_goals simp [literalNames, eq_comm]

theorem Variable.ofName?_eq_some {name : String} {subject : Variable} :
    ofName? name = some subject ↔ name = subject.name := by
  rw [ofName?.eq_def]
  split <;> cases subject <;> simp_all [Variable.name]

theorem Attribute.ofLabel?_eq_some {label : String} {field : Attribute} :
    ofLabel? label = some field ↔ label = field.label := by
  rw [ofLabel?.eq_def]
  split <;> cases field <;> simp_all [Attribute.label]

theorem Function.ofName?_eq_some {name : String} {function : Function} :
    ofName? name = some function ↔ name = function.name := by
  rw [ofName?.eq_def]
  split <;> cases function <;> simp_all [Function.name]

/-! ### Derivations -/

/-- Lexemes and the tree that they stand for. -/
structure Phrase where
  lexemes : List Lexeme
  tree : Expr

/-- An operator in a chain, and the operand after it. -/
structure Link where
  mark : Lexeme
  op : BinaryOp
  right : Phrase

def Link.lexemes (link : Link) : List Lexeme :=
  link.mark :: link.right.lexemes

def Link.join (left : Expr) (link : Link) : Expr :=
  .binary link.op left link.right.tree

def Phrase.bracketed (p : Phrase) : List Lexeme :=
  .openBracket :: (p.lexemes ++ [.closeBracket])

def Phrase.select (target : Expr) (p : Phrase) : Expr :=
  .index target p.tree

def separated (items : List Phrase) : List Lexeme :=
  [Lexeme.comma].intercalate (items.map Phrase.lexemes)

/-- The constructs of the grammar, loosest first. -/
inductive Construct where
  | chain (level : Chain)
  | negation
  | comparison
  | signed
  | subscripted
  | primary
  deriving DecidableEq

/-- Looser constructs are measured higher. -/
def Construct.rank : Construct → Nat
  | chain level => level.rank
  | negation => 9
  | comparison => 8
  | signed => 2
  | subscripted => 1
  | primary => 0

/-- Any expression is a chain of the loosest operators. -/
abbrev Construct.expression : Construct :=
  .chain .disjunction

def Chain.operands : Chain → Construct
  | disjunction => .chain .conjunction
  | conjunction => .negation
  | sum => .chain .product
  | product => .signed

/-- Lexemes that make up a construct, and the tree that they stand for. -/
inductive Derives : Construct → List Lexeme → Expr → Prop
  | chain {level : Chain} {first : Phrase} {links : List Link}
      (hfirst : Derives level.operands first.lexemes first.tree)
      (hmarks : ∀ link ∈ links, (link.mark, link.op) ∈ level.marks)
      (hlinks : ∀ link ∈ links, Derives level.operands link.right.lexemes link.right.tree) :
      Derives (.chain level) (first.lexemes ++ links.flatMap Link.lexemes)
        (links.foldl Link.join first.tree)
  | negation {mark : Lexeme} {ts : List Lexeme} {e : Expr} (hmark : mark ∈ negationMarks)
      (hoperand : Derives .negation ts e) : Derives .negation (mark :: ts) (.unary .not e)
  | affirmed {ts : List Lexeme} {e : Expr} (hcomparison : Derives .comparison ts e) :
      Derives .negation ts e
  | comparison {mark : Lexeme} {op : BinaryOp} {ls rs : List Lexeme} {left right : Expr}
      (hmark : (mark, op) ∈ comparisonMarks) (hleft : Derives (.chain .sum) ls left)
      (hright : Derives (.chain .sum) rs right) :
      Derives .comparison (ls ++ mark :: rs) (.binary op left right)
  | uncompared {ts : List Lexeme} {e : Expr} (hsum : Derives (.chain .sum) ts e) :
      Derives .comparison ts e
  | minus {ts : List Lexeme} {e : Expr} (hoperand : Derives .signed ts e)
      (hint : ∀ n, e ≠ .literal (.int n)) : Derives .signed (.minus :: ts) (.unary .neg e)
  -- The sign of an integer literal goes into the literal.
  | negative {ts : List Lexeme} {n : Int64} (hoperand : Derives .signed ts (.literal (.int n))) :
      Derives .signed (.minus :: ts) (.literal (.int (-n)))
  | unsigned {ts : List Lexeme} {e : Expr} (hsubscripted : Derives .subscripted ts e) :
      Derives .signed ts e
  | subscripted {target : Phrase} {positions : List Phrase}
      (htarget : Derives .primary target.lexemes target.tree)
      (hpositions : ∀ p ∈ positions, Derives .expression p.lexemes p.tree) :
      Derives .subscripted (target.lexemes ++ positions.flatMap Phrase.bracketed)
        (positions.foldl Phrase.select target.tree)
  | int (n : Int64) : Derives .primary [.int n] (.literal (.int n))
  | str (text : String) : Derives .primary [.str text] (.literal (.str text))
  | named {name : String} {value : Literal} (hname : (name, value) ∈ literalNames) :
      Derives .primary [.ident name] (.literal value)
  | attr (subject : Variable) (field : Attribute) :
      Derives .primary [.ident subject.name, .dot, .ident field.label] (.attr subject field)
  | call (function : Function) {arguments : List Phrase}
      (harguments : ∀ p ∈ arguments, Derives .expression p.lexemes p.tree) :
      Derives .primary
        (.ident function.name :: .openParen :: (separated arguments ++ [.closeParen]))
        (.call function (arguments.map Phrase.tree))
  | group {ts : List Lexeme} {e : Expr} (hinner : Derives .expression ts e) :
      Derives .primary (.openParen :: (ts ++ [.closeParen])) e
  | list {items : List Phrase} (hitems : ∀ p ∈ items, Derives .expression p.lexemes p.tree) :
      Derives .primary (.openBracket :: (separated items ++ [.closeBracket]))
        (.list (items.map Phrase.tree))

variable {level : Chain} {c : Construct} {m : Lexeme} {op : BinaryOp} {ts : List Lexeme} {e : Expr}

@[simp] theorem separated_singleton (p : Phrase) : separated [p] = p.lexemes := by
  simp [separated]

@[simp] theorem separated_cons_cons (p q : Phrase) (ps : List Phrase) :
    separated (p :: q :: ps) = p.lexemes ++ .comma :: separated (q :: ps) := by
  simp [separated, List.intercalate_cons_cons]

theorem Derives.negate (hoperand : Derives .signed ts e) :
    Derives .signed (.minus :: ts) (negate e) := by
  unfold Expr.negate
  split
  case h_1 => exact .negative hoperand
  case h_2 hother => exact .minus hoperand fun n hn => hother n hn

theorem negate_of_ne (hint : ∀ n, e ≠ .literal (.int n)) : negate e = .unary .neg e := by
  unfold negate
  split
  case h_1 n => exact absurd rfl (hint n)
  case h_2 => rfl

theorem Chain.rank_operands_lt (level : Chain) :
    level.operands.rank < (Construct.chain level).rank := by
  cases level <;> decide

/-! ### How a phrase begins -/

/-- The construct that a lexeme opens. An identifier is taken for a name, even where it is none. -/
def Lexeme.opens? : Lexeme → Option Construct
  | ident "not" | bang => some .negation
  | minus => some .signed
  | ident _ | int _ | str _ | openParen | openBracket => some .primary
  | _ => none

/-- Whether a phrase of a construct may begin with a lexeme. -/
def Construct.Begins (c : Construct) (m : Lexeme) : Prop :=
  ∃ inner, m.opens? = some inner ∧ inner.rank ≤ c.rank

theorem Construct.Begins.mono {d : Construct} (hbegins : c.Begins m) (hle : c.rank ≤ d.rank) :
    d.Begins m := by
  obtain ⟨inner, hopens, hrank⟩ := hbegins
  exact ⟨inner, hopens, Nat.le_trans hrank hle⟩

theorem opens?_of_mem_negationMarks (hmark : m ∈ negationMarks) : m.opens? = some .negation := by
  have hopens : ∀ m ∈ negationMarks, m.opens? = some .negation := by decide
  exact hopens m hmark

theorem opens?_of_mem_literalNames {name : String} {value : Literal}
    (hname : (name, value) ∈ literalNames) : (Lexeme.ident name).opens? = some .primary := by
  have hopens : ∀ entry ∈ literalNames, (Lexeme.ident entry.1).opens? = some .primary := by decide
  exact hopens _ hname

theorem Derives.begins (hderives : Derives c ts e) : ∃ m more, ts = m :: more ∧ c.Begins m := by
  induction hderives with
  | @chain level _ _ _ _ _ ih _ =>
      obtain ⟨m, more, hfirst, hbegins⟩ := ih
      exact ⟨m, _, by rw [hfirst, List.cons_append],
        hbegins.mono (Nat.le_of_lt level.rank_operands_lt)⟩
  | negation hmark _ _ =>
      exact ⟨_, _, rfl, .negation, opens?_of_mem_negationMarks hmark, Nat.le_refl _⟩
  | affirmed _ ih | uncompared _ ih | unsigned _ ih =>
      obtain ⟨m, more, hts, hbegins⟩ := ih
      exact ⟨m, more, hts, hbegins.mono (by decide)⟩
  | comparison _ _ _ ih _ =>
      obtain ⟨m, more, hleft, hbegins⟩ := ih
      exact ⟨m, _, by rw [hleft, List.cons_append], hbegins.mono (by decide)⟩
  | minus | negative => exact ⟨_, _, rfl, .signed, rfl, Nat.le_refl _⟩
  | subscripted _ _ ih _ =>
      obtain ⟨m, more, htarget, hbegins⟩ := ih
      exact ⟨m, _, by rw [htarget, List.cons_append], hbegins.mono (by decide)⟩
  | named hname => exact ⟨_, _, rfl, .primary, opens?_of_mem_literalNames hname, Nat.le_refl _⟩
  | attr subject field =>
      exact ⟨_, _, rfl, .primary, by cases subject <;> decide, Nat.le_refl _⟩
  | call function _ _ => exact ⟨_, _, rfl, .primary, by cases function <;> decide, Nat.le_refl _⟩
  | _ => exact ⟨_, _, rfl, .primary, rfl, Nat.le_refl _⟩

theorem Derives.length_pos (hderives : Derives c ts e) : 0 < ts.length := by
  obtain ⟨m, more, rfl, -⟩ := hderives.begins
  exact Nat.succ_pos _

/-- The marks that may come after an expression within a larger one. -/
def closingMarks : List Lexeme :=
  [.comma, .closeParen, .closeBracket]

/-- A phrase that is not a negation does not begin like one, and so on for the other constructs. -/
theorem Construct.Begins.opens?_ne {d : Construct} (hbegins : c.Begins m) (hlt : c.rank < d.rank) :
    m.opens? ≠ some d := by
  obtain ⟨inner, hopens, hrank⟩ := hbegins
  intro hother
  obtain rfl := Option.some.inj (hopens.symm.trans hother)
  omega

theorem Construct.Begins.not_mem_closingMarks (hbegins : c.Begins m) : m ∉ closingMarks := by
  have hopens : ∀ m ∈ closingMarks, m.opens? = none := by decide
  obtain ⟨inner, hinner, -⟩ := hbegins
  intro hmark
  rw [hopens m hmark] at hinner
  cases hinner

/-! ### What may come after a phrase -/

def Lexeme.goesOn? : Lexeme → Option Construct
  | ident "or" | orOr => some (.chain .disjunction)
  | ident "and" | andAnd => some (.chain .conjunction)
  | ident "in" | eqEq | notEq | lt | le | gt | ge => some .comparison
  | plus | minus => some (.chain .sum)
  | star | slash | percent => some (.chain .product)
  | openBracket => some .subscripted
  | _ => none

/-- Whether a lexeme that comes after a phrase of a construct would be taken for more of it. -/
def Construct.Continues (c : Construct) (m : Lexeme) : Prop :=
  ∃ inner, m.goesOn? = some inner ∧ inner.rank ≤ c.rank

theorem Construct.Continues.mono {d : Construct} (hcontinues : c.Continues m)
    (hle : c.rank ≤ d.rank) : d.Continues m := by
  obtain ⟨inner, hgoesOn, hrank⟩ := hcontinues
  exact ⟨inner, hgoesOn, Nat.le_trans hrank hle⟩

theorem Construct.not_continues_of_rank_lt {d : Construct} (hgoesOn : m.goesOn? = some d)
    (hlt : c.rank < d.rank) : ¬ c.Continues m := by
  rintro ⟨inner, hinner, hrank⟩
  obtain rfl := Option.some.inj (hgoesOn.symm.trans hinner)
  omega

theorem Chain.goesOn?_of_mem_marks (hmark : (m, op) ∈ level.marks) :
    m.goesOn? = some (.chain level) := by
  have hgoesOn : ∀ entry ∈ level.marks, entry.1.goesOn? = some (.chain level) := by
    cases level <;> decide
  exact hgoesOn _ hmark

theorem goesOn?_of_mem_comparisonMarks (hmark : (m, op) ∈ comparisonMarks) :
    m.goesOn? = some .comparison := by
  have hgoesOn : ∀ entry ∈ comparisonMarks, entry.1.goesOn? = some .comparison := by decide
  exact hgoesOn _ hmark

theorem goesOn?_of_mem_closingMarks (hmark : m ∈ closingMarks) : m.goesOn? = none := by
  have hgoesOn : ∀ m ∈ closingMarks, m.goesOn? = none := by decide
  exact hgoesOn m hmark

end Apprentice.Expr
