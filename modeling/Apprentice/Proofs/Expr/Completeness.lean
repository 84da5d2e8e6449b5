import Apprentice.Expr.Lexer
import Apprentice.Proofs.Expr.Derivation
import Mathlib.Data.List.Forall2

/-!
# What is derived is read

A parser that is at a phrase of its construct reads the phrase and nothing more, if the lexeme after
it would not be taken for more of it. All that can come in between is that it gets too deep. How
many levels a construct needs depends on what its parts need, and as much room as the phrase has
lexemes is always enough. Whichever trees some lexemes have, a parser with enough room finds them;
as it finds one tree only, there is only one.
-/

namespace Apprentice.Expr

variable {endOffset room need more n k : Nat} {short wider : Prop} {α β : Type} {value : α}
  {whole : β} {c d : Construct} {level : Chain} {m : Lexeme} {op : BinaryOp} {ts us : List Lexeme}
  {e left right : Expr} {tokens mid rest : List Token}

/-! ### What comes of reading -/

/-- A value is read and some tokens are left, or it gets too deep; the latter only if there is too
little room. -/
inductive Comes (short : Prop) (value : α) (rest : List Token) :
    Except Error (Parsed Token α n) → Prop
  | read (hshorter : rest.length < n) : Comes short value rest (.ok ⟨value, rest, hshorter⟩)
  | tooDeep (hshort : short) (offset : Nat) : Comes short value rest (.error (.tooDeep offset))

theorem Comes.mono {x : Except Error (Parsed Token α n)} (hcomes : Comes short value rest x)
    (himplies : short → wider) : Comes wider value rest x := by
  cases hcomes with
  | read hshorter => exact .read hshorter
  | tooDeep hshort offset => exact .tooDeep (himplies hshort) offset

theorem Comes.eq_ok {x : Except Error (Parsed Token α n)} (hcomes : Comes short value rest x)
    (hroom : ¬ short) : ∃ hshorter, x = .ok ⟨value, rest, hshorter⟩ := by
  cases hcomes with
  | read hshorter => exact ⟨hshorter, rfl⟩
  | tooDeep hshort offset => exact absurd hshort hroom

theorem Comes.bind {x : Except Error (Parsed Token α n)}
    {f : Parsed Token α n → Except Error (Parsed Token β k)} (hcomes : Comes short value mid x)
    (hthen : ∀ hshorter, Comes short whole rest (f ⟨value, mid, hshorter⟩)) :
    Comes short whole rest (x >>= f) := by
  cases hcomes with
  | read hshorter => exact hthen hshorter
  | tooDeep hshort offset => exact .tooDeep hshort offset

theorem comes_of_deeper {f : Nat → Except Error (Parsed Token α n)} (hshort : room = 0 → short)
    (hthen : ∀ inner, room = inner + 1 → Comes short value rest (f inner)) :
    Comes short value rest (deeper endOffset room tokens >>= f) := by
  cases room with
  | zero => exact .tooDeep (hshort rfl) _
  | succ inner => exact hthen inner rfl

theorem comes_of_expect (offset : Nat) (expected : Expectation) :
    Comes short () rest (expect endOffset m expected (⟨m, offset⟩ :: rest)) := by
  rw [expect, if_pos rfl]
  exact .read _

/-! ### Where a phrase stops -/

/-- Whether what comes after a phrase would not be taken for more of it. -/
def Stops (c : Construct) (rest : List Token) : Prop :=
  ∀ token ∈ rest.head?, ¬ c.Continues token.lexeme

theorem stops_nil (c : Construct) : Stops c [] := by
  intro token htoken
  cases htoken

theorem stops_cons {token : Token} : Stops c (token :: rest) ↔ ¬ c.Continues token.lexeme := by
  simp [Stops]

theorem Stops.mono (hstops : Stops c rest) (hle : d.rank ≤ c.rank) : Stops d rest :=
  fun token htoken hcontinues => hstops token htoken (hcontinues.mono hle)

theorem stops_of_mem_closingMarks (hmark : m ∈ closingMarks) (c : Construct) (offset : Nat) :
    Stops c (⟨m, offset⟩ :: rest) := by
  rw [stops_cons]
  rintro ⟨inner, hgoesOn, -⟩
  rw [goesOn?_of_mem_closingMarks hmark] at hgoesOn
  cases hgoesOn

/-! ### Parsers that read all phrases -/

def Construct.parser (endOffset : Nat) : Construct → Nat → (tokens : List Token) →
    Except Error (Parsed Token Expr tokens.length)
  | .chain level => Expr.chain endOffset level
  | .negation => Expr.negation endOffset
  | .comparison => Expr.comparison endOffset
  | .signed => Expr.signed endOffset
  | .subscripted => Expr.subscripted endOffset
  | .primary => Expr.primary endOffset

theorem operand_eq : operand endOffset level room tokens =
    level.operands.parser endOffset room tokens := by
  cases level <;> rw [operand] <;> rfl

/-- Whether the parser of a construct reads a phrase, whatever comes after it. -/
def Complete (endOffset : Nat) (c : Construct) (ts : List Lexeme) (e : Expr) : Prop :=
  ∀ room tokens rest, Spells ts tokens rest → Stops c rest →
    Comes (room + 1 < ts.length) e rest (c.parser endOffset room tokens)

def ReadWith (endOffset : Nat) (c : Construct) (need : Nat) (ts : List Lexeme) (e : Expr) : Prop :=
  ∀ room tokens rest, Spells ts tokens rest → Stops c rest →
    Comes (room < need) e rest (c.parser endOffset room tokens)

theorem complete_iff : Complete endOffset c ts e ↔ ReadWith endOffset c (ts.length - 1) ts e := by
  constructor
  · intro hcomplete room tokens rest hspells hstops
    exact (hcomplete room tokens rest hspells hstops).mono (by omega)
  · intro hread room tokens rest hspells hstops
    exact (hread room tokens rest hspells hstops).mono (by omega)

theorem ReadWith.mono (hread : ReadWith endOffset c need ts e) (hle : need ≤ more) :
    ReadWith endOffset c more ts e := fun room tokens rest hspells hstops =>
  (hread room tokens rest hspells hstops).mono fun hroom => Nat.lt_of_lt_of_le hroom hle

theorem ReadWith.expression (hread : ReadWith endOffset .expression need ts e)
    (hspells : Spells ts tokens rest) (hstops : Stops .expression rest) (room : Nat) :
    Comes (room < need + 1) e rest (expression endOffset room tokens) := by
  rw [Expr.expression]
  refine comes_of_deeper (by omega) fun inner hroom => ?_
  rw [hroom]
  exact (hread inner tokens rest hspells hstops).mono Nat.succ_lt_succ

/-! ### Chains -/

theorem stops_of_links {links : List Link}
    (hmarks : ∀ link ∈ links, (link.mark, link.op) ∈ level.marks)
    (hspells : Spells (links.flatMap Link.lexemes) mid rest) (hstops : Stops (.chain level) rest) :
    Stops level.operands mid := by
  cases links with
  | nil =>
      obtain rfl := spells_nil.mp hspells
      exact hstops.mono (Nat.le_of_lt level.rank_operands_lt)
  | cons link links =>
      obtain ⟨offset, next, rfl, -⟩ := spells_cons.mp hspells
      rw [stops_cons]
      exact Construct.not_continues_of_rank_lt
        (Chain.goesOn?_of_mem_marks (hmarks link List.mem_cons_self)) level.rank_operands_lt

theorem comes_of_links {endOffset : Nat} {links : List Link}
    (hmarks : ∀ link ∈ links, (link.mark, link.op) ∈ level.marks)
    (hlinks : ∀ link ∈ links,
      ReadWith endOffset level.operands k link.right.lexemes link.right.tree)
    (hspells : Spells (links.flatMap Link.lexemes) tokens rest) (hstops : Stops (.chain level) rest)
    (hneed : links.length + k ≤ need) (room : Nat) (left : Expr) :
    Comes (room < need) (links.foldl Link.join left) rest
      (Expr.links endOffset level room left tokens) := by
  induction links generalizing tokens room need left with
  | nil =>
      obtain rfl := spells_nil.mp hspells
      cases tokens with
      | nil =>
          rw [Expr.links]
          exact .read _
      | cons token tokens =>
          have hnone : level.operator? token.lexeme = none := by
            refine Option.eq_none_iff_forall_ne_some.mpr fun op hop => stops_cons.mp hstops ?_
            exact ⟨_, Chain.goesOn?_of_mem_marks (Chain.operator?_eq_some.mp hop), Nat.le_refl _⟩
          rw [Expr.links, hnone]
          exact .read _
  | cons link links ih =>
      obtain ⟨hmark, hmarks⟩ := List.forall_mem_cons.mp hmarks
      obtain ⟨hfirst, hlinks⟩ := List.forall_mem_cons.mp hlinks
      obtain ⟨offset, next, rfl, hnext⟩ := spells_cons.mp hspells
      obtain ⟨mid, hright, hmore⟩ := spells_append.mp hnext
      rw [List.length_cons] at hneed
      rw [Expr.links, Chain.operator?_eq_some.mpr hmark]
      refine comes_of_deeper (by omega) fun inner hroom => ?_
      rw [operand_eq]
      refine Comes.bind ((hfirst inner next mid hright (stops_of_links hmarks hmore hstops)).mono
        (by omega)) fun hshorter => ?_
      -- One level less is left for the links after this one.
      have hneed : links.length + k ≤ need - 1 := by omega
      have hthen := ih hmarks hlinks hmore hneed inner
        (.binary link.op left link.right.tree)
      refine Comes.bind (hthen.mono (by omega)) fun hshorter => ?_
      exact .read _

theorem readWith_chain {first : Phrase} {links : List Link}
    (hmarks : ∀ link ∈ links, (link.mark, link.op) ∈ level.marks)
    (hfirst : ReadWith endOffset level.operands need first.lexemes first.tree)
    (hlinks : ∀ link ∈ links,
      ReadWith endOffset level.operands k link.right.lexemes link.right.tree)
    (hneed : links.length + k ≤ need) :
    ReadWith endOffset (.chain level) need (first.lexemes ++ links.flatMap Link.lexemes)
      (links.foldl Link.join first.tree) := by
  intro room tokens rest hspells hstops
  obtain ⟨mid, hleft, hmore⟩ := spells_append.mp hspells
  show Comes _ _ _ (Expr.chain endOffset level room tokens)
  rw [Expr.chain, operand_eq]
  refine Comes.bind (hfirst room tokens mid hleft (stops_of_links hmarks hmore hstops))
    fun hshorter => ?_
  refine Comes.bind (comes_of_links hmarks hlinks hmore hstops hneed room first.tree)
    fun hshorter => ?_
  exact .read _

/-! ### Negations, comparisons and signs -/

theorem readWith_negation (hmark : m ∈ negationMarks)
    (hoperand : ReadWith endOffset .negation need ts e) :
    ReadWith endOffset .negation (need + 1) (m :: ts) (.unary .not e) := by
  intro room tokens rest hspells hstops
  obtain ⟨offset, next, rfl, hnext⟩ := spells_cons.mp hspells
  show Comes _ _ _ (Expr.negation endOffset room (⟨m, offset⟩ :: next))
  rw [Expr.negation, if_pos (isNegation_iff.mpr hmark)]
  refine comes_of_deeper (by omega) fun inner hroom => ?_
  refine Comes.bind ((hoperand inner next rest hnext hstops).mono (by omega)) fun hshorter => ?_
  exact .read _

theorem readWith_affirmed (hderives : Derives .comparison ts e)
    (hcomparison : ReadWith endOffset .comparison need ts e) :
    ReadWith endOffset .negation need ts e := by
  intro room tokens rest hspells hstops
  obtain ⟨m, more, rfl, hbegins⟩ := hderives.begins
  obtain ⟨offset, next, rfl, -⟩ := spells_cons.mp hspells
  -- A comparison never begins like a negation, so it is handed on.
  have hmark : isNegation m ≠ true := fun hnegation =>
    hbegins.opens?_ne (by decide) (opens?_of_mem_negationMarks (isNegation_iff.mp hnegation))
  show Comes _ _ _ (Expr.negation endOffset room (⟨m, offset⟩ :: next))
  rw [Expr.negation, if_neg hmark]
  exact hcomparison room _ rest hspells (hstops.mono (by decide))

theorem Stops.comparison?_eq_none (hstops : Stops .comparison rest) :
    (rest.head?.bind fun token => comparison? token.lexeme) = none := by
  refine Option.bind_eq_none_iff.mpr fun token htoken => ?_
  refine Option.eq_none_iff_forall_ne_some.mpr fun op hop => hstops token htoken ?_
  exact ⟨_, goesOn?_of_mem_comparisonMarks (comparison?_eq_some.mp hop), Nat.le_refl _⟩

theorem readWith_comparison (hmark : (m, op) ∈ comparisonMarks)
    (hleft : ReadWith endOffset (.chain .sum) need ts left)
    (hright : ReadWith endOffset (.chain .sum) need us right) :
    ReadWith endOffset .comparison need (ts ++ m :: us) (.binary op left right) := by
  intro room tokens rest hspells hstops
  obtain ⟨mid, hfirst, hmore⟩ := spells_append.mp hspells
  obtain ⟨offset, next, rfl, hnext⟩ := spells_cons.mp hmore
  have hside : Stops (.chain .sum) (⟨m, offset⟩ :: next) := stops_cons.mpr
    (Construct.not_continues_of_rank_lt (goesOn?_of_mem_comparisonMarks hmark) (by decide))
  show Comes _ _ _ (Expr.comparison endOffset room tokens)
  rw [Expr.comparison]
  refine Comes.bind (hleft room tokens _ hfirst hside) fun hshorter => ?_
  simp only [comparison?_eq_some.mpr hmark]
  refine Comes.bind (hright room next rest hnext (hstops.mono (by decide))) fun hshorter => ?_
  simp only [hstops.comparison?_eq_none]
  exact .read _

theorem readWith_uncompared (hsum : ReadWith endOffset (.chain .sum) need ts e) :
    ReadWith endOffset .comparison need ts e := by
  intro room tokens rest hspells hstops
  show Comes _ _ _ (Expr.comparison endOffset room tokens)
  rw [Expr.comparison]
  refine Comes.bind (hsum room tokens rest hspells (hstops.mono (by decide))) fun hshorter => ?_
  cases rest with
  | nil => exact .read _
  | cons token rest =>
      have hnone : comparison? token.lexeme = none := hstops.comparison?_eq_none
      simp only [hnone]
      exact .read _

theorem readWith_signed (hoperand : ReadWith endOffset .signed need ts e) :
    ReadWith endOffset .signed (need + 1) (.minus :: ts) (negate e) := by
  intro room tokens rest hspells hstops
  obtain ⟨offset, next, rfl, hnext⟩ := spells_cons.mp hspells
  show Comes _ _ _ (Expr.signed endOffset room (⟨.minus, offset⟩ :: next))
  rw [Expr.signed, if_pos rfl]
  refine comes_of_deeper (by omega) fun inner hroom => ?_
  refine Comes.bind ((hoperand inner next rest hnext hstops).mono (by omega)) fun hshorter => ?_
  exact .read _

theorem readWith_unsigned (hderives : Derives .subscripted ts e)
    (hsubscripted : ReadWith endOffset .subscripted need ts e) :
    ReadWith endOffset .signed need ts e := by
  intro room tokens rest hspells hstops
  obtain ⟨m, more, rfl, hbegins⟩ := hderives.begins
  obtain ⟨offset, next, rfl, -⟩ := spells_cons.mp hspells
  have hmark : m ≠ .minus := by
    rintro rfl
    exact hbegins.opens?_ne (by decide) rfl
  show Comes _ _ _ (Expr.signed endOffset room (⟨m, offset⟩ :: next))
  rw [Expr.signed, if_neg hmark]
  exact hsubscripted room _ rest hspells (hstops.mono (by decide))

/-! ### Subscripts -/

theorem stops_of_positions {positions : List Phrase}
    (hspells : Spells (positions.flatMap Phrase.bracketed) mid rest)
    (hstops : Stops .subscripted rest) : Stops .primary mid := by
  cases positions with
  | nil =>
      obtain rfl := spells_nil.mp hspells
      exact hstops.mono (by decide)
  | cons position positions =>
      obtain ⟨offset, next, rfl, -⟩ := spells_cons.mp hspells
      rw [stops_cons]
      exact Construct.not_continues_of_rank_lt rfl (by decide)

theorem comes_of_subscripts {endOffset : Nat} {positions : List Phrase}
    (hpositions : ∀ p ∈ positions, ReadWith endOffset .expression k p.lexemes p.tree)
    (hspells : Spells (positions.flatMap Phrase.bracketed) tokens rest)
    (hstops : Stops .subscripted rest) (hneed : ∀ p ∈ positions, positions.length + k < need)
    (room : Nat) (target : Expr) :
    Comes (room < need) (positions.foldl Phrase.select target) rest
      (Expr.subscripts endOffset room target tokens) := by
  induction positions generalizing tokens room need target with
  | nil =>
      obtain rfl := spells_nil.mp hspells
      cases tokens with
      | nil =>
          rw [Expr.subscripts]
          exact .read _
      | cons token tokens =>
          have hmark : token.lexeme ≠ .openBracket := fun hopen => stops_cons.mp hstops
            ⟨.subscripted, by rw [hopen]; rfl, Nat.le_refl _⟩
          rw [Expr.subscripts, if_neg hmark]
          exact .read _
  | cons position positions ih =>
      obtain ⟨hfirst, hpositions⟩ := List.forall_mem_cons.mp hpositions
      have hneed := hneed position List.mem_cons_self
      obtain ⟨offset, next, rfl, hnext⟩ := spells_cons.mp hspells
      obtain ⟨mid, hbracketed, hmore⟩ := spells_append.mp hnext
      obtain ⟨last, hindex, hclose⟩ := spells_append.mp hbracketed
      obtain ⟨closing, next', rfl, hclosed⟩ := spells_cons.mp hclose
      obtain rfl := spells_nil.mp hclosed
      rw [List.length_cons] at hneed
      rw [Expr.subscripts, if_pos rfl]
      refine comes_of_deeper (by omega) fun inner hroom => ?_
      refine Comes.bind ((hfirst.expression hindex
        (stops_of_mem_closingMarks (by decide) _ _) inner).mono (by omega)) fun hshorter => ?_
      refine Comes.bind (comes_of_expect _ _) fun hshorter => ?_
      have hneed : ∀ p ∈ positions, positions.length + k < need - 1 := fun _ _ => by omega
      have hthen := ih hpositions hmore hneed inner
        (.index target position.tree)
      refine Comes.bind (hthen.mono (by omega)) fun hshorter => ?_
      exact .read _

theorem readWith_subscripted {target : Phrase} {positions : List Phrase}
    (htarget : ReadWith endOffset .primary need target.lexemes target.tree)
    (hpositions : ∀ p ∈ positions, ReadWith endOffset .expression k p.lexemes p.tree)
    (hneed : ∀ p ∈ positions, positions.length + k < need) :
    ReadWith endOffset .subscripted need (target.lexemes ++ positions.flatMap Phrase.bracketed)
      (positions.foldl Phrase.select target.tree) := by
  intro room tokens rest hspells hstops
  obtain ⟨mid, hfirst, hmore⟩ := spells_append.mp hspells
  show Comes _ _ _ (Expr.subscripted endOffset room tokens)
  rw [Expr.subscripted]
  refine Comes.bind (htarget room tokens mid hfirst (stops_of_positions hmore hstops))
    fun hshorter => ?_
  refine Comes.bind (comes_of_subscripts hpositions hmore hstops hneed room target.tree)
    fun hshorter => ?_
  exact .read _

/-! ### What is enclosed -/

theorem comes_of_items {close : Lexeme} {endOffset : Nat} (expected : Expectation)
    (hclosing : close ∈ closingMarks) (hcomma : close ≠ .comma) {first : Phrase}
    {others : List Phrase}
    (hitems : ∀ p ∈ first :: others, ReadWith endOffset .expression k p.lexemes p.tree)
    (hspells : Spells (separated (first :: others) ++ [close]) tokens rest) (room : Nat) :
    Comes (room < k + 1) ((first :: others).map Phrase.tree) rest
      (items endOffset room close expected tokens) := by
  induction others generalizing first tokens with
  | nil =>
      rw [separated_singleton] at hspells
      obtain ⟨last, hfirst, hclose⟩ := spells_append.mp hspells
      obtain ⟨offset, next, rfl, hclosed⟩ := spells_cons.mp hclose
      obtain rfl := spells_nil.mp hclosed
      rw [items]
      refine Comes.bind ((hitems first List.mem_cons_self).expression hfirst
        (stops_of_mem_closingMarks hclosing _ _) room) fun hshorter => ?_
      dsimp only
      rw [if_pos rfl]
      exact .read _
  | cons second others ih =>
      obtain ⟨hitem, hitems⟩ := List.forall_mem_cons.mp hitems
      rw [separated_cons_cons, List.append_assoc] at hspells
      obtain ⟨last, hfirst, hmore⟩ := spells_append.mp hspells
      obtain ⟨offset, next, rfl, hnext⟩ := spells_cons.mp hmore
      rw [items]
      refine Comes.bind (hitem.expression hfirst (stops_of_mem_closingMarks (by decide) _ _) room)
        fun hshorter => ?_
      dsimp only
      rw [if_neg hcomma.symm, if_pos rfl]
      refine Comes.bind (ih hitems hnext) fun hshorter => ?_
      exact .read _

theorem comes_of_enclosed {close : Lexeme} {phrases : List Phrase} (expected : Expectation)
    (hclosing : close ∈ closingMarks) (hcomma : close ≠ .comma)
    (hderives : ∀ p ∈ phrases, Derives .expression p.lexemes p.tree)
    (hphrases : ∀ p ∈ phrases, ReadWith endOffset .expression k p.lexemes p.tree)
    (hspells : Spells (separated phrases ++ [close]) tokens rest) (room : Nat) :
    Comes (room < k + 1) (phrases.map Phrase.tree) rest
      (enclosed endOffset room close expected tokens) := by
  cases phrases with
  | nil =>
      obtain ⟨offset, next, rfl, hclosed⟩ := spells_cons.mp hspells
      obtain rfl := spells_nil.mp hclosed
      rw [enclosed, if_pos rfl]
      exact .read _
  | cons first others =>
      obtain ⟨m, more, hlexemes, hbegins⟩ := (hderives first List.mem_cons_self).begins
      obtain ⟨tail, htail⟩ : ∃ tail, separated (first :: others) = m :: tail := by
        cases others <;> simp [hlexemes]
      have hmark : m ≠ close := by
        rintro rfl
        exact hbegins.not_mem_closingMarks hclosing
      have hhead := hspells
      rw [htail] at hhead
      obtain ⟨offset, next, rfl, -⟩ := spells_cons.mp hhead
      rw [enclosed, if_neg hmark]
      exact comes_of_items expected hclosing hcomma hphrases hspells room

/-! ### Primary expressions -/

theorem readWith_single (hread : ∀ room offset rest, ∃ hshorter,
      Expr.primary endOffset room (⟨m, offset⟩ :: rest) = .ok ⟨e, rest, hshorter⟩) :
    ReadWith endOffset .primary 0 [m] e := by
  intro room tokens rest hspells _
  obtain ⟨offset, next, rfl, hnext⟩ := spells_cons.mp hspells
  obtain rfl := spells_nil.mp hnext
  obtain ⟨hshorter, hprimary⟩ := hread room offset next
  show Comes _ _ _ (Expr.primary endOffset room (⟨m, offset⟩ :: next))
  rw [hprimary]
  exact .read _

theorem readWith_named {name : String} {literal : Literal}
    (hname : (name, literal) ∈ literalNames) :
    ReadWith endOffset .primary 0 [.ident name] (.literal literal) := by
  refine readWith_single fun room offset rest => ?_
  refine ⟨Nat.lt_succ_self _, ?_⟩
  rw [Expr.primary.eq_def]
  simp only [namedLiteral?_eq_some.mpr hname]

theorem comes_of_attributeAccess (subject : Variable) (field : Attribute) (dot place : Nat) :
    Comes short (attr subject field) rest
      (attributeAccess endOffset subject (⟨.dot, dot⟩ :: ⟨.ident field.label, place⟩ :: rest)) := by
  rw [attributeAccess]
  refine Comes.bind (comes_of_expect _ _) fun hshorter => ?_
  simp only [Attribute.ofLabel?_eq_some.mpr rfl]
  exact .read _

theorem readWith_attr (subject : Variable) (field : Attribute) :
    ReadWith endOffset .primary 0 [.ident subject.name, .dot, .ident field.label]
      (.attr subject field) := by
  intro room tokens rest hspells _
  obtain ⟨offset, access, rfl, haccess⟩ := spells_cons.mp hspells
  obtain ⟨dot, label, rfl, hlabel⟩ := spells_cons.mp haccess
  obtain ⟨place, next, rfl, hnext⟩ := spells_cons.mp hlabel
  obtain rfl := spells_nil.mp hnext
  have hliteral : namedLiteral? subject.name = none := by cases subject <;> rfl
  show Comes _ _ _ (Expr.primary endOffset room _)
  rw [Expr.primary.eq_def]
  simp only [hliteral, Variable.ofName?_eq_some.mpr rfl]
  refine Comes.bind (comes_of_attributeAccess subject field dot place) fun hshorter => ?_
  exact .read _

theorem readWith_call (function : Function) {arguments : List Phrase}
    (hderives : ∀ p ∈ arguments, Derives .expression p.lexemes p.tree)
    (harguments : ∀ p ∈ arguments, ReadWith endOffset .expression k p.lexemes p.tree) :
    ReadWith endOffset .primary (k + 1)
      (.ident function.name :: .openParen :: (separated arguments ++ [.closeParen]))
      (.call function (arguments.map Phrase.tree)) := by
  intro room tokens rest hspells _
  obtain ⟨offset, next, rfl, hnext⟩ := spells_cons.mp hspells
  obtain ⟨opening, inside, rfl, hinside⟩ := spells_cons.mp hnext
  have hliteral : namedLiteral? function.name = none := by cases function <;> rfl
  have hvariable : Variable.ofName? function.name = none := by cases function <;> rfl
  show Comes _ _ _ (Expr.primary endOffset room _)
  rw [Expr.primary, hliteral, hvariable]
  dsimp only
  rw [Function.ofName?_eq_some.mpr rfl]
  refine Comes.bind (comes_of_enclosed .argumentEnd (by decide) (by decide) hderives harguments
    hinside room) fun hshorter => ?_
  exact .read _

theorem readWith_group (hinner : ReadWith endOffset .expression need ts e) :
    ReadWith endOffset .primary (need + 1) (.openParen :: (ts ++ [.closeParen])) e := by
  intro room tokens rest hspells _
  obtain ⟨offset, next, rfl, hnext⟩ := spells_cons.mp hspells
  obtain ⟨last, hinside, hclose⟩ := spells_append.mp hnext
  obtain ⟨closing, next', rfl, hclosed⟩ := spells_cons.mp hclose
  obtain rfl := spells_nil.mp hclosed
  show Comes _ _ _ (Expr.primary endOffset room _)
  rw [Expr.primary]
  refine Comes.bind (hinner.expression hinside (stops_of_mem_closingMarks (by decide) _ _) room)
    fun hshorter => ?_
  refine Comes.bind (comes_of_expect _ _) fun hshorter => ?_
  exact .read _

theorem readWith_list {phrases : List Phrase}
    (hderives : ∀ p ∈ phrases, Derives .expression p.lexemes p.tree)
    (hphrases : ∀ p ∈ phrases, ReadWith endOffset .expression k p.lexemes p.tree) :
    ReadWith endOffset .primary (k + 1) (.openBracket :: (separated phrases ++ [.closeBracket]))
      (.list (phrases.map Phrase.tree)) := by
  intro room tokens rest hspells _
  obtain ⟨offset, inside, rfl, hinside⟩ := spells_cons.mp hspells
  show Comes _ _ _ (Expr.primary endOffset room _)
  rw [Expr.primary]
  refine Comes.bind (comes_of_enclosed .itemEnd (by decide) (by decide) hderives hphrases
    hinside room) fun hshorter => ?_
  exact .read _

/-! ### All constructs -/

theorem length_le_length_flatMap {f : α → List β} {size : α → Nat}
    (hsize : ∀ x, size x < (f x).length) (xs : List α) : xs.length ≤ (xs.flatMap f).length := by
  induction xs with
  | nil => exact Nat.zero_le _
  | cons x xs ih =>
      have hx := hsize x
      rw [List.flatMap_cons, List.length_append, List.length_cons]
      omega

/-- Each part of a phrase leaves out one lexeme of every other part at least. -/
theorem size_add_length_le {f : α → List β} {size : α → Nat} (hsize : ∀ x, size x < (f x).length)
    {xs : List α} {x : α} (hx : x ∈ xs) : size x + xs.length ≤ (xs.flatMap f).length := by
  induction xs with
  | nil => cases hx
  | cons y ys ih =>
      have hy := hsize y
      have hys := length_le_length_flatMap hsize ys
      rw [List.flatMap_cons, List.length_append, List.length_cons]
      obtain rfl | hx := List.mem_cons.mp hx
      · omega
      · have hrest := ih hx
        omega

theorem length_le_length_separated {p : Phrase} {items : List Phrase} (hp : p ∈ items) :
    p.lexemes.length ≤ (separated items).length := by
  induction items with
  | nil => cases hp
  | cons first others ih =>
      cases others with
      | nil =>
          obtain rfl := List.mem_singleton.mp hp
          exact Nat.le_of_eq (congrArg List.length (separated_singleton p).symm)
      | cons second others =>
          rw [separated_cons_cons, List.length_append, List.length_cons]
          obtain rfl | hp := List.mem_cons.mp hp
          · exact Nat.le_add_right _ _
          · have hrest := ih hp
            omega

/-- Every phrase is read by the parser of its construct. -/
theorem Derives.complete (hderives : Derives c ts e) (endOffset : Nat) :
    Complete endOffset c ts e := by
  rw [complete_iff]
  induction hderives with
  | @chain level first links hfirst hmarks hlinks ihfirst ihlinks =>
      have hpos := hfirst.length_pos
      have hlength : ∀ link : Link, link.right.lexemes.length < link.lexemes.length :=
        fun link => Nat.lt_succ_self _
      have hle := length_le_length_flatMap hlength links
      rw [List.length_append]
      refine readWith_chain hmarks (ihfirst.mono (by omega))
        (k := (links.flatMap Link.lexemes).length - links.length) (fun link hlink => ?_) (by omega)
      have hright := size_add_length_le hlength hlink
      exact (ihlinks link hlink).mono (by omega)
  | negation hmark hoperand ih =>
      have hpos := hoperand.length_pos
      exact (readWith_negation hmark ih).mono (by rw [List.length_cons]; omega)
  | affirmed hcomparison ih => exact readWith_affirmed hcomparison ih
  | comparison hmark hleft hright ihleft ihright =>
      rw [List.length_append, List.length_cons]
      exact readWith_comparison hmark (ihleft.mono (by omega)) (ihright.mono (by omega))
  | uncompared _ ih => exact readWith_uncompared ih
  | minus hoperand hint ih =>
      have hpos := hoperand.length_pos
      rw [← negate_of_ne hint]
      exact (readWith_signed ih).mono (by rw [List.length_cons]; omega)
  | negative hoperand ih =>
      have hpos := hoperand.length_pos
      exact (readWith_signed ih).mono (by rw [List.length_cons]; omega)
  | unsigned hsubscripted ih => exact readWith_unsigned hsubscripted ih
  | @subscripted target positions htarget hpositions ihtarget ihpositions =>
      have hpos := htarget.length_pos
      have hlength : ∀ p : Phrase, p.lexemes.length + 1 < p.bracketed.length := fun p => by
        rw [Phrase.bracketed, List.length_cons, List.length_append]
        exact Nat.lt_succ_self _
      rw [List.length_append]
      refine readWith_subscripted (ihtarget.mono (by omega)) (fun p hp => ?_)
        (k := (positions.flatMap Phrase.bracketed).length - positions.length - 1) fun p hp => ?_
      · have hposition := size_add_length_le hlength hp
        exact (ihpositions p hp).mono (by omega)
      · have hposition := size_add_length_le hlength hp
        omega
  | int n => exact readWith_single fun room offset rest => ⟨_, by rw [Expr.primary]⟩
  | str text => exact readWith_single fun room offset rest => ⟨_, by rw [Expr.primary]⟩
  | named hname => exact readWith_named hname
  | attr subject field => exact (readWith_attr subject field).mono (Nat.zero_le _)
  | call function harguments ih =>
      refine (readWith_call function harguments fun p hp => (ih p hp).mono
        (Nat.sub_le_of_le_add (Nat.le_succ_of_le (length_le_length_separated hp)))).mono ?_
      simp only [List.length_cons, List.length_append]
      omega
  | group hinner ih =>
      have hpos := hinner.length_pos
      refine (readWith_group ih).mono ?_
      simp only [List.length_cons, List.length_append]
      omega
  | list hitems ih =>
      refine (readWith_list hitems fun p hp => (ih p hp).mono
        (Nat.sub_le_of_le_add (Nat.le_succ_of_le (length_le_length_separated hp)))).mono ?_
      simp only [List.length_cons, List.length_append]
      omega

/-- Lexemes have one tree at most, as a phrase of whichever construct. -/
theorem Derives.unique {other : Expr} (hderives : Derives c ts e) (hother : Derives c ts other) :
    e = other := by
  have hspells : Spells ts (ts.map fun t => ⟨t, 0⟩) [] :=
    spells_all.mpr (by rw [List.map_map]; exact List.map_id ts)
  have hroom : ¬ ts.length + 1 < ts.length := by omega
  obtain ⟨_, hread⟩ := (hderives.complete 0 ts.length _ [] hspells (stops_nil c)).eq_ok hroom
  obtain ⟨_, hreadOther⟩ := (hother.complete 0 ts.length _ [] hspells (stops_nil c)).eq_ok hroom
  exact congrArg Parsed.value (Except.ok.inj (hread.symm.trans hreadOther))

theorem parse_of_derives (hderives : Derives .expression (tokens.map Token.lexeme) e)
    (endOffset : Nat) : parse endOffset tokens = .ok e ∨
      maxDepth < tokens.length ∧ ∃ offset, parse endOffset tokens = .error (.tooDeep offset) := by
  have hpos := hderives.length_pos
  have hsome : tokens.isEmpty ≠ true := by
    intro hempty
    rw [List.isEmpty_iff.mp hempty] at hpos
    exact absurd hpos (Nat.lt_irrefl 0)
  have hcomes := (complete_iff.mp (hderives.complete endOffset)).expression (spells_all.mpr rfl)
    (stops_nil _) maxDepth
  rw [Nat.sub_add_cancel hpos] at hcomes
  rw [parse, if_neg hsome]
  generalize expression endOffset maxDepth tokens = result at hcomes ⊢
  cases hcomes with
  | read hshorter => exact .inl rfl
  | tooDeep hshort offset => exact .inr ⟨List.length_map Token.lexeme ▸ hshort, offset, rfl⟩

/-- The parser accepts exactly what the grammar derives, up to the depth of nesting: the tree that
it gives is derived from the tokens, and if any tree is derived from them, then it is the only one,
and it is found or too deep. Only an expression of more than `maxDepth` tokens can be too deep. -/
theorem parse_iff_derives (endOffset : Nat) (tokens : List Token) :
    (∀ e, parse endOffset tokens = .ok e → Derives .expression (tokens.map Token.lexeme) e) ∧
      (∀ e, Derives .expression (tokens.map Token.lexeme) e → parse endOffset tokens = .ok e ∨
        maxDepth < tokens.length ∧ ∃ offset, parse endOffset tokens = .error (.tooDeep offset)) ∧
      ∀ e other, Derives .expression (tokens.map Token.lexeme) e →
        Derives .expression (tokens.map Token.lexeme) other → e = other :=
  ⟨fun _ => derives_of_parse, fun _ hderives => parse_of_derives hderives endOffset,
    fun _ _ hderives hother => hderives.unique hother⟩

/-- Differences are taken from the left, and a negation is of the whole comparison. -/
theorem parse_iff_derives_differences :
    ∃ tokens, tokenize "not 3 - 2 - 1 > -1" = .ok tokens ∧
      parse 18 tokens = .ok (.unary .not (.binary .gt
        (.binary .sub (.binary .sub (.literal (.int 3)) (.literal (.int 2))) (.literal (.int 1)))
        (.literal (.int (-1))))) ∧
      ∃ e, Derives .expression (tokens.map Token.lexeme) e ∧
        ∀ other, Derives .expression (tokens.map Token.lexeme) other → other = e := by
  have hparse : parse 18 [⟨.ident "not", 0⟩, ⟨.int 3, 4⟩, ⟨.minus, 6⟩, ⟨.int 2, 8⟩, ⟨.minus, 10⟩,
      ⟨.int 1, 12⟩, ⟨.gt, 14⟩, ⟨.minus, 16⟩, ⟨.int 1, 17⟩] =
    .ok (.unary .not (.binary .gt
      (.binary .sub (.binary .sub (.literal (.int 3)) (.literal (.int 2))) (.literal (.int 1)))
      (.literal (.int (-1))))) := by cbv
  obtain ⟨hsound, -, hunique⟩ := parse_iff_derives 18 [⟨.ident "not", 0⟩, ⟨.int 3, 4⟩, ⟨.minus, 6⟩,
    ⟨.int 2, 8⟩, ⟨.minus, 10⟩, ⟨.int 1, 12⟩, ⟨.gt, 14⟩, ⟨.minus, 16⟩, ⟨.int 1, 17⟩]
  have hderives := hsound _ hparse
  exact ⟨_, by decide +kernel, hparse, _, hderives,
    fun other hother => hunique other _ hother hderives⟩

end Apprentice.Expr
