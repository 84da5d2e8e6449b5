import Apprentice.Proofs.Expr.Grammar
import Apprentice.Proofs.Expr.Typing

/-!
# What is read is derived

Whatever a parser reads is a phrase of its construct, and the tree that it gives is the tree of the
phrase. The loops that join links and subscripts have a tree in hand already; what they read is the
rest of a phrase, and the tree is joined to the one in hand.
-/

namespace Apprentice.Expr

/-! ### Tokens -/

/-- Tokens that spell lexemes, up to the tokens that come after them. -/
inductive Spells : List Lexeme → List Token → List Token → Prop
  | nil (tokens : List Token) : Spells [] tokens tokens
  | cons (token : Token) {ts : List Lexeme} {tokens rest : List Token}
      (hspells : Spells ts tokens rest) : Spells (token.lexeme :: ts) (token :: tokens) rest

variable {ts us : List Lexeme} {m : Lexeme} {tokens mid rest : List Token} {endOffset room n : Nat}

theorem Spells.single (token : Token) (tokens : List Token) :
    Spells [token.lexeme] (token :: tokens) tokens :=
  .cons token (.nil tokens)

theorem Spells.append (hfirst : Spells ts tokens mid) (hthen : Spells us mid rest) :
    Spells (ts ++ us) tokens rest := by
  induction hfirst with
  | nil => exact hthen
  | cons token _ ih => exact .cons token (ih hthen)

theorem spells_nil : Spells [] tokens rest ↔ tokens = rest := by
  constructor
  · rintro ⟨-⟩
    rfl
  · rintro rfl
    exact .nil tokens

theorem spells_cons : Spells (m :: ts) tokens rest ↔
    ∃ offset mid, tokens = ⟨m, offset⟩ :: mid ∧ Spells ts mid rest := by
  constructor
  · intro hspells
    cases hspells with
    | cons token hspells => exact ⟨token.offset, _, rfl, hspells⟩
  · rintro ⟨offset, mid, rfl, hspells⟩
    exact .cons ⟨m, offset⟩ hspells

theorem spells_append : Spells (ts ++ us) tokens rest ↔
    ∃ mid, Spells ts tokens mid ∧ Spells us mid rest := by
  constructor
  · intro hspells
    induction ts generalizing tokens with
    | nil => exact ⟨tokens, .nil tokens, hspells⟩
    | cons t ts ih =>
        obtain ⟨offset, next, rfl, hnext⟩ := spells_cons.mp hspells
        obtain ⟨mid, hfirst, hthen⟩ := ih hnext
        exact ⟨mid, .cons ⟨t, offset⟩ hfirst, hthen⟩
  · rintro ⟨mid, hfirst, hthen⟩
    exact hfirst.append hthen

theorem Spells.suffix (hspells : Spells ts tokens rest) : rest <:+ tokens := by
  induction hspells with
  | nil => exact List.suffix_refl _
  | cons token _ ih => exact ih.trans (List.suffix_cons token _)

theorem spells_all : Spells ts tokens [] ↔ tokens.map Token.lexeme = ts := by
  constructor
  · intro hspells
    induction ts generalizing tokens with
    | nil =>
        obtain rfl := spells_nil.mp hspells
        rfl
    | cons t ts ih =>
        obtain ⟨offset, next, rfl, hnext⟩ := spells_cons.mp hspells
        rw [List.map_cons, ih hnext]
  · rintro rfl
    induction tokens with
    | nil => exact .nil []
    | cons token tokens ih => exact .cons token ih

/-! ### Phrases that are read -/

def ReadsPhrase (c : Construct) (tokens : List Token) (p : Parsed Token Expr n) : Prop :=
  ∃ ts, Spells ts tokens p.rest ∧ Derives c ts p.value

def ReadsItems (close : Lexeme) (tokens : List Token) (p : Parsed Token (List Expr) n) : Prop :=
  ∃ phrases : List Phrase, Spells (separated phrases ++ [close]) tokens p.rest ∧
    (∀ phrase ∈ phrases, Derives .expression phrase.lexemes phrase.tree) ∧
    p.value = phrases.map Phrase.tree

theorem ReadsPhrase.mono {c d : Construct} {p : Parsed Token Expr n}
    (hreads : ReadsPhrase c tokens p) (hderives : ∀ {ts e}, Derives c ts e → Derives d ts e) :
    ReadsPhrase d tokens p := by
  obtain ⟨ts, hspells, hphrase⟩ := hreads
  exact ⟨ts, hspells, hderives hphrase⟩

theorem spells_of_expect {lexeme : Lexeme} {expected : Expectation}
    {p : Parsed Token Unit tokens.length} (hok : expect endOffset lexeme expected tokens = .ok p) :
    Spells [lexeme] tokens p.rest := by
  unfold expect at hok
  split at hok
  next token rest =>
    split at hok
    next hlexeme =>
      cases hok
      exact hlexeme ▸ .single token rest
    next => cases hok
  next => cases hok

theorem reads_of_attributeAccess {subject : Variable} {token : Token}
    {p : Parsed Token Expr tokens.length} (hsubject : token.lexeme = .ident subject.name)
    (hok : attributeAccess endOffset subject tokens = .ok p) :
    ∃ ts, Spells ts (token :: tokens) p.rest ∧ Derives .primary ts p.value := by
  rw [attributeAccess] at hok
  obtain ⟨dot, hdot, hok⟩ := bind_eq_ok hok
  have hdot := spells_of_expect hdot
  split at hok
  next name offset rest hrest =>
    split at hok
    next field hfield =>
      cases hok
      rw [hrest] at hdot
      obtain rfl := Attribute.ofLabel?_eq_some.mp hfield
      have hspells := (Spells.single token tokens).append
        (hdot.append (.single ⟨.ident field.label, offset⟩ rest))
      rw [hsubject] at hspells
      exact ⟨_, hspells, .attr subject field⟩
    next => cases hok
  next => cases hok

-- The recursion is that of the parsers: there are fewer tokens, or the construct is a tighter one.
mutual

theorem reads_of_expression {room : Nat} {tokens : List Token} {p : Parsed Token Expr tokens.length}
    (hok : expression endOffset room tokens = .ok p) : ReadsPhrase .expression tokens p := by
  rw [expression] at hok
  obtain ⟨inner, -, hok⟩ := bind_eq_ok hok
  exact reads_of_chain hok
termination_by (tokens.length, 14)

theorem reads_of_chain {room : Nat} {tokens : List Token} {level : Chain}
    {p : Parsed Token Expr tokens.length}
    (hok : chain endOffset level room tokens = .ok p) : ReadsPhrase (.chain level) tokens p := by
  rw [chain] at hok
  obtain ⟨first, hfirst, hok⟩ := bind_eq_ok hok
  obtain ⟨whole, hwhole, hok⟩ := bind_eq_ok hok
  cases hok
  have hshorter := first.shorter
  obtain ⟨ts, hts, hphrase⟩ := reads_of_operand hfirst
  obtain ⟨links, hspells, hmarks, hlinks, htree⟩ := reads_of_links hwhole
  refine ⟨ts ++ links.flatMap Link.lexemes, hts.append hspells, ?_⟩
  rw [htree]
  exact @Derives.chain level ⟨ts, first.value⟩ links hphrase hmarks hlinks
termination_by (tokens.length, level.rank + 1)

theorem reads_of_links {room : Nat} {tokens : List Token} {level : Chain} {left : Expr}
    {p : Parsed Token Expr (tokens.length + 1)}
    (hok : links endOffset level room left tokens = .ok p) :
    ∃ links : List Link, Spells (links.flatMap Link.lexemes) tokens p.rest ∧
      (∀ link ∈ links, (link.mark, link.op) ∈ level.marks) ∧
      (∀ link ∈ links, Derives level.operands link.right.lexemes link.right.tree) ∧
      p.value = links.foldl Link.join left := by
  match tokens, p, hok with
  | [], p, hok =>
    rw [links] at hok
    cases hok
    exact ⟨[], .nil [], by simp, by simp, rfl⟩
  | token :: rest, p, hok =>
    rw [links] at hok
    split at hok
    next =>
      cases hok
      exact ⟨[], .nil _, by simp, by simp, rfl⟩
    next op hop =>
      obtain ⟨inner, -, hok⟩ := bind_eq_ok hok
      obtain ⟨right, hright, hok⟩ := bind_eq_ok hok
      obtain ⟨whole, hwhole, hok⟩ := bind_eq_ok hok
      cases hok
      have hshorter := right.shorter
      obtain ⟨ts, hts, hphrase⟩ := reads_of_operand hright
      obtain ⟨links, hspells, hmarks, hlinks, htree⟩ := reads_of_links hwhole
      refine ⟨⟨token.lexeme, op, ⟨ts, right.value⟩⟩ :: links, ?_, ?_, ?_, htree⟩
      · exact .cons token (hts.append hspells)
      · exact List.forall_mem_cons.mpr ⟨Chain.operator?_eq_some.mp hop, hmarks⟩
      · exact List.forall_mem_cons.mpr ⟨hphrase, hlinks⟩
termination_by (tokens.length, 0)

theorem reads_of_operand {room : Nat} {tokens : List Token} {level : Chain}
    {p : Parsed Token Expr tokens.length}
    (hok : operand endOffset level room tokens = .ok p) : ReadsPhrase level.operands tokens p := by
  cases level <;> rw [operand] at hok
  case disjunction => exact reads_of_chain hok
  case conjunction => exact reads_of_negation hok
  case sum => exact reads_of_chain hok
  case product => exact reads_of_signed hok
termination_by (tokens.length, level.rank)

theorem reads_of_negation {room : Nat} {tokens : List Token} {p : Parsed Token Expr tokens.length}
    (hok : negation endOffset room tokens = .ok p) : ReadsPhrase .negation tokens p := by
  match tokens, p, hok with
  | [], p, hok =>
    rw [negation] at hok
    exact (reads_of_comparison hok).mono .affirmed
  | token :: rest, p, hok =>
    rw [negation] at hok
    split at hok
    next hmark =>
      obtain ⟨inner, -, hok⟩ := bind_eq_ok hok
      obtain ⟨operand, hoperand, hok⟩ := bind_eq_ok hok
      cases hok
      obtain ⟨ts, hspells, hphrase⟩ := reads_of_negation hoperand
      exact ⟨_, .cons token hspells, .negation (isNegation_iff.mp hmark) hphrase⟩
    next => exact (reads_of_comparison hok).mono .affirmed
termination_by (tokens.length, 9)

theorem reads_of_comparison {room : Nat} {tokens : List Token} {p : Parsed Token Expr tokens.length}
    (hok : comparison endOffset room tokens = .ok p) : ReadsPhrase .comparison tokens p := by
  rw [comparison] at hok
  obtain ⟨left, hleft, hok⟩ := bind_eq_ok hok
  have hleft := reads_of_chain hleft
  split at hok
  next =>
    cases hok
    exact hleft.mono .uncompared
  next token rest hrest =>
    split at hok
    next =>
      cases hok
      exact hleft.mono .uncompared
    next op hop =>
      have hshorter := left.length_tail_lt hrest
      obtain ⟨right, hright, hok⟩ := bind_eq_ok hok
      split at hok
      next => cases hok
      next =>
        cases hok
        obtain ⟨ls, hls, hleft⟩ := hleft
        obtain ⟨rs, hrs, hright⟩ := reads_of_chain hright
        rw [hrest] at hls
        exact ⟨ls ++ token.lexeme :: rs, hls.append (.cons token hrs),
          .comparison (comparison?_eq_some.mp hop) hleft hright⟩
termination_by (tokens.length, 8)

theorem reads_of_signed {room : Nat} {tokens : List Token} {p : Parsed Token Expr tokens.length}
    (hok : signed endOffset room tokens = .ok p) : ReadsPhrase .signed tokens p := by
  match tokens, p, hok with
  | [], p, hok =>
    rw [signed] at hok
    exact (reads_of_subscripted hok).mono .unsigned
  | token :: rest, p, hok =>
    rw [signed] at hok
    split at hok
    next hminus =>
      obtain ⟨inner, -, hok⟩ := bind_eq_ok hok
      obtain ⟨operand, hoperand, hok⟩ := bind_eq_ok hok
      cases hok
      obtain ⟨ts, hspells, hphrase⟩ := reads_of_signed hoperand
      exact ⟨_, hminus ▸ .cons token hspells, hphrase.negate⟩
    next => exact (reads_of_subscripted hok).mono .unsigned
termination_by (tokens.length, 2)

theorem reads_of_subscripted {room : Nat} {tokens : List Token}
    {p : Parsed Token Expr tokens.length}
    (hok : subscripted endOffset room tokens = .ok p) : ReadsPhrase .subscripted tokens p := by
  rw [subscripted] at hok
  obtain ⟨target, htarget, hok⟩ := bind_eq_ok hok
  obtain ⟨whole, hwhole, hok⟩ := bind_eq_ok hok
  cases hok
  have hshorter := target.shorter
  obtain ⟨ts, hts, hphrase⟩ := reads_of_primary htarget
  obtain ⟨positions, hspells, hpositions, htree⟩ := reads_of_subscripts hwhole
  refine ⟨ts ++ positions.flatMap Phrase.bracketed, hts.append hspells, ?_⟩
  rw [htree]
  exact @Derives.subscripted ⟨ts, target.value⟩ positions hphrase hpositions
termination_by (tokens.length, 1)

theorem reads_of_subscripts {room : Nat} {tokens : List Token} {target : Expr}
    {p : Parsed Token Expr (tokens.length + 1)}
    (hok : subscripts endOffset room target tokens = .ok p) :
    ∃ positions : List Phrase, Spells (positions.flatMap Phrase.bracketed) tokens p.rest ∧
      (∀ position ∈ positions, Derives .expression position.lexemes position.tree) ∧
      p.value = positions.foldl Phrase.select target := by
  match tokens, p, hok with
  | [], p, hok =>
    rw [subscripts] at hok
    cases hok
    exact ⟨[], .nil [], by simp, rfl⟩
  | token :: rest, p, hok =>
    rw [subscripts] at hok
    split at hok
    next hopen =>
      obtain ⟨inner, -, hok⟩ := bind_eq_ok hok
      obtain ⟨index, hindex, hok⟩ := bind_eq_ok hok
      obtain ⟨close, hclose, hok⟩ := bind_eq_ok hok
      obtain ⟨whole, hwhole, hok⟩ := bind_eq_ok hok
      cases hok
      have hshorter := Nat.lt_trans close.shorter index.shorter
      obtain ⟨ts, hts, hphrase⟩ := reads_of_expression hindex
      obtain ⟨positions, hspells, hpositions, htree⟩ := reads_of_subscripts hwhole
      refine ⟨⟨ts, index.value⟩ :: positions, ?_, ?_, htree⟩
      · have hbracketed := Spells.cons token (hts.append (spells_of_expect hclose))
        rw [hopen] at hbracketed
        exact hbracketed.append hspells
      · exact List.forall_mem_cons.mpr ⟨hphrase, hpositions⟩
    next =>
      cases hok
      exact ⟨[], .nil _, by simp, rfl⟩
termination_by (tokens.length, 0)

theorem reads_of_primary {room : Nat} {tokens : List Token} {p : Parsed Token Expr tokens.length}
    (hok : primary endOffset room tokens = .ok p) : ReadsPhrase .primary tokens p := by
  rw [primary.eq_def] at hok
  split at hok
  next value offset rest =>
    cases hok
    exact ⟨_, .single _ rest, .int value⟩
  next text offset rest =>
    cases hok
    exact ⟨_, .single _ rest, .str text⟩
  next offset rest =>
    obtain ⟨inner, hinner, hok⟩ := bind_eq_ok hok
    obtain ⟨close, hclose, hok⟩ := bind_eq_ok hok
    cases hok
    obtain ⟨ts, hspells, hphrase⟩ := reads_of_expression hinner
    exact ⟨_, .cons _ (hspells.append (spells_of_expect hclose)), .group hphrase⟩
  next offset rest =>
    obtain ⟨items, hitems, hok⟩ := bind_eq_ok hok
    cases hok
    obtain ⟨phrases, hspells, hphrases, htrees⟩ := reads_of_enclosed hitems
    exact ⟨_, .cons _ hspells, htrees ▸ .list hphrases⟩
  next name offset rest =>
    split at hok
    next value _ hvalue =>
      cases hok
      exact ⟨_, .single _ rest, .named (namedLiteral?_eq_some.mp hvalue)⟩
    next subject _ hsubject =>
      obtain ⟨access, haccess, hok⟩ := bind_eq_ok hok
      cases hok
      exact reads_of_attributeAccess
        (congrArg Lexeme.ident (Variable.ofName?_eq_some.mp hsubject)) haccess
    next =>
      split at hok
      next inside =>
        split at hok
        next => cases hok
        next function hfunction =>
          obtain ⟨arguments, harguments, hok⟩ := bind_eq_ok hok
          cases hok
          obtain ⟨phrases, hspells, hphrases, htrees⟩ := reads_of_enclosed harguments
          obtain rfl := Function.ofName?_eq_some.mp hfunction
          exact ⟨_, .cons _ (.cons _ hspells), htrees ▸ .call function hphrases⟩
      next => cases hok
  next => cases hok
termination_by (tokens.length, 0)
decreasing_by
  all_goals
    subst_vars
    simp_wf
    omega

theorem reads_of_enclosed {room : Nat} {tokens : List Token} {close : Lexeme}
    {expected : Expectation} {p : Parsed Token (List Expr) tokens.length}
    (hok : enclosed endOffset room close expected tokens = .ok p) : ReadsItems close tokens p := by
  match tokens, p, hok with
  | [], p, hok =>
    rw [enclosed] at hok
    exact (reads_of_items hok).1
  | token :: rest, p, hok =>
    rw [enclosed] at hok
    split at hok
    next hclose =>
      cases hok
      exact ⟨[], hclose ▸ .single token rest, by simp, rfl⟩
    next => exact (reads_of_items hok).1
termination_by (tokens.length, 16)

theorem reads_of_items {room : Nat} {tokens : List Token} {close : Lexeme}
    {expected : Expectation} {p : Parsed Token (List Expr) tokens.length}
    (hok : items endOffset room close expected tokens = .ok p) :
    ReadsItems close tokens p ∧ p.value ≠ [] := by
  rw [items] at hok
  obtain ⟨first, hfirst, hok⟩ := bind_eq_ok hok
  obtain ⟨ts, hts, hphrase⟩ := reads_of_expression hfirst
  split at hok
  next => cases hok
  next token rest hrest =>
    rw [hrest] at hts
    split at hok
    next hclose =>
      cases hok
      refine ⟨⟨[⟨ts, first.value⟩], ?_, by simpa using hphrase, rfl⟩, List.cons_ne_nil _ _⟩
      rw [separated_singleton, ← hclose]
      exact hts.append (.single token rest)
    next =>
      split at hok
      next hcomma =>
        have hshorter := first.length_tail_lt hrest
        obtain ⟨others, hothers, hok⟩ := bind_eq_ok hok
        cases hok
        obtain ⟨⟨phrases, hspells, hphrases, htrees⟩, hsome⟩ := reads_of_items hothers
        cases phrases with
        | nil => exact absurd htrees hsome
        | cons second phrases =>
            refine ⟨⟨⟨ts, first.value⟩ :: second :: phrases, ?_, ?_, ?_⟩, List.cons_ne_nil _ _⟩
            · rw [separated_cons_cons, ← hcomma, List.append_assoc, List.cons_append]
              exact hts.append (.cons token hspells)
            · exact List.forall_mem_cons.mpr ⟨hphrase, hphrases⟩
            · exact congrArg (List.cons first.value) htrees
      next => cases hok
termination_by (tokens.length, 15)

end

theorem derives_of_parse {e : Expr} (hok : parse endOffset tokens = .ok e) :
    Derives .expression (tokens.map Token.lexeme) e := by
  rw [parse] at hok
  split at hok
  next => cases hok
  next =>
    obtain ⟨whole, hwhole, hok⟩ := bind_eq_ok hok
    split at hok
    next hempty =>
      cases hok
      obtain ⟨ts, hspells, hphrase⟩ := reads_of_expression hwhole
      rw [List.isEmpty_iff.mp hempty] at hspells
      exact spells_all.mp hspells ▸ hphrase
    next => cases hok

end Apprentice.Expr
