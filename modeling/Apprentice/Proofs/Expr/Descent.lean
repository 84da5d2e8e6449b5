import Apprentice.Proofs.Expr.Derivation
import Mathlib.Logic.Function.Iterate

/-!
# Parsing one step at a time

The parsers hand the room that is left for levels down to the parsers that they call. Here they are
a machine: there is one counter of levels for all of them, which is counted up on the way down and
counted down, or set back to what it was, on the way up, and the calls that wait for the tree of
another call are on a stack, so that every moment of a run can be looked at.

Which of many things a step does, depends on the tokens. What it may do at all is said once, in
`Move`: whatever all of these moves keep, a whole run keeps.
-/

namespace Apprentice.Expr

/-! ### Calls that wait -/

/-- What stands between brackets: the items of a list, or the arguments of a function. -/
inductive Enclosure where
  | list
  | call (function : Function)
  deriving DecidableEq, Repr

def Enclosure.close : Enclosure → Lexeme
  | list => .closeBracket
  | call _ => .closeParen

def Enclosure.expected : Enclosure → Expectation
  | list => .itemEnd
  | call _ => .argumentEnd

def Enclosure.whole : Enclosure → List Expr → Expr
  | list, items => .list items
  | call function, items => .call function items

namespace Descent

/-- A call that waits for the tree of another one, with what it has read so far. Chains and
subscripts also keep what the counter was when they began. -/
inductive Frame where
  | chain (level : Chain) (base : Nat) (before : Option (Expr × BinaryOp))
  | negation
  | comparison (before : Option (Expr × BinaryOp))
  | sign
  | subscripted (base : Nat) (target : Option Expr)
  | group
  | enclosed (enclosure : Enclosure) (items : List Expr)

def joined : Option (Expr × BinaryOp) → Expr → Expr
  | none, e => e
  | some (left, op), e => .binary op left e

def selected : Option Expr → Expr → Expr
  | none, e => e
  | some target, e => .index target e

inductive State where
  /-- A construct is to be read. -/
  | call (construct : Construct) (frames : List Frame) (depth : Nat) (tokens : List Token)
  /-- A tree has been read, and goes to the call that waits for it. -/
  | back (tree : Expr) (frames : List Frame) (depth : Nat) (tokens : List Token)
  | done (result : Except Error Expr)
  /-- The counter was counted down at zero. -/
  | underflow

def State.frames : State → List Frame
  | call _ frames _ _ | back _ frames _ _ => frames
  | done _ | underflow => []

/-- The tokens that have not been read. None is read after the end. -/
def State.tokens : State → List Token
  | call _ _ _ tokens | back _ _ _ tokens => tokens
  | done _ | underflow => []

section

variable (endOffset : Nat)

/-! ### Steps -/

def enter (depth : Nat) (tokens : List Token) (next : Nat → State) : State :=
  if depth < maxDepth then next (depth + 1)
  else .done (.error (.tooDeep (nextOffset endOffset tokens)))

def leave (depth : Nat) (next : Nat → State) : State :=
  match depth with
  | 0 => .underflow
  | outer + 1 => next outer

/-- What comes of a call if a parser reads all that it is to read, and `whole` makes the tree of
that. -/
def outcome {α : Type} {n : Nat} (whole : α → Expr) (frames : List Frame) (depth : Nat) :
    Except Error (Parsed Token α n) → State
  | .ok p => .back (whole p.value) frames depth p.rest
  | .error reason => .done (.error reason)

def openEnclosure (enclosure : Enclosure) (frames : List Frame) (depth : Nat) : List Token → State
  | token :: rest =>
    if token.lexeme = enclosure.close then .back (enclosure.whole []) frames depth rest
    else .call .expression (.enclosed enclosure [] :: frames) depth (token :: rest)
  | [] => .call .expression (.enclosed enclosure [] :: frames) depth []

/-- Goes on with a chain, the first operands of which are in `left`. -/
def goOnChain (level : Chain) (base : Nat) (left : Expr) (frames : List Frame) (depth : Nat) :
    List Token → State
  | token :: rest =>
    match level.operator? token.lexeme with
    | some op =>
      enter endOffset depth rest fun inner =>
        .call level.operands (.chain level base (some (left, op)) :: frames) inner rest
    | none => .back left frames base (token :: rest)
  | [] => .back left frames base []

def goOnSubscripts (base : Nat) (target : Expr) (frames : List Frame) (depth : Nat) :
    List Token → State
  | token :: rest =>
    if token.lexeme = .openBracket then
      enter endOffset depth rest fun inner =>
        .call .expression (.subscripted base (some target) :: frames) inner rest
    else .back target frames base (token :: rest)
  | [] => .back target frames base []

def callPrimary (frames : List Frame) (depth : Nat) : List Token → State
  | ⟨.int value, _⟩ :: rest => .back (.literal (.int value)) frames depth rest
  | ⟨.str text, _⟩ :: rest => .back (.literal (.str text)) frames depth rest
  | ⟨.openParen, _⟩ :: rest => .call .expression (.group :: frames) depth rest
  | ⟨.openBracket, _⟩ :: rest => openEnclosure .list frames depth rest
  | ⟨.ident name, offset⟩ :: rest =>
    match namedLiteral? name, Variable.ofName? name with
    | some value, _ => .back (.literal value) frames depth rest
    | none, some subject => outcome id frames depth (attributeAccess endOffset subject rest)
    | none, none =>
      match rest with
      | ⟨.openParen, _⟩ :: inside =>
        match Function.ofName? name with
        | none => .done (.error (.unknownFunction name offset))
        | some function => openEnclosure (.call function) frames depth inside
      | _ => .done (.error (.unknownName name offset))
  | other => .done (.error (unexpected endOffset .value other))

/-- Begins with a construct. Any expression is one level deeper than its surroundings. -/
def call (construct : Construct) (frames : List Frame) (depth : Nat) (tokens : List Token) :
    State :=
  match construct with
  | .expression =>
    enter endOffset depth tokens fun inner =>
      .call Chain.disjunction.operands (.chain .disjunction depth none :: frames) inner tokens
  | .chain level => .call level.operands (.chain level depth none :: frames) depth tokens
  | .negation =>
    match tokens with
    | token :: rest =>
      if isNegation token.lexeme then
        enter endOffset depth rest fun inner => .call .negation (.negation :: frames) inner rest
      else .call .comparison frames depth (token :: rest)
    | [] => .call .comparison frames depth []
  | .comparison => .call (.chain .sum) (.comparison none :: frames) depth tokens
  | .signed =>
    match tokens with
    | token :: rest =>
      if token.lexeme = .minus then
        enter endOffset depth rest fun inner => .call .signed (.sign :: frames) inner rest
      else .call .subscripted frames depth (token :: rest)
    | [] => .call .subscripted frames depth []
  | .subscripted => .call .primary (.subscripted depth none :: frames) depth tokens
  | .primary => callPrimary endOffset frames depth tokens

theorem call_expression (frames : List Frame) (depth : Nat) (tokens : List Token) :
    call endOffset .expression frames depth tokens = enter endOffset depth tokens fun inner =>
      .call Chain.disjunction.operands (.chain .disjunction depth none :: frames) inner tokens :=
  rfl

def resume (frame : Frame) (tree : Expr) (frames : List Frame) (depth : Nat) (tokens : List Token) :
    State :=
  match frame with
  | .chain level base before =>
    goOnChain endOffset level base (joined before tree) frames depth tokens
  | .negation => leave depth fun outer => .back (.unary .not tree) frames outer tokens
  | .comparison none =>
    match tokens with
    | token :: rest =>
      match comparison? token.lexeme with
      | some op => .call (.chain .sum) (.comparison (some (tree, op)) :: frames) depth rest
      | none => .back tree frames depth (token :: rest)
    | [] => .back tree frames depth []
  | .comparison (some (left, op)) =>
    if (tokens.head?.bind fun next => comparison? next.lexeme).isSome then
      .done (.error (.chainedComparison (nextOffset endOffset tokens)))
    else .back (.binary op left tree) frames depth tokens
  | .sign => leave depth fun outer => .back (negate tree) frames outer tokens
  | .subscripted base none => goOnSubscripts endOffset base tree frames depth tokens
  | .subscripted base (some target) =>
    match expect endOffset .closeBracket .closeBracket tokens with
    | .ok close => goOnSubscripts endOffset base (.index target tree) frames depth close.rest
    | .error reason => .done (.error reason)
  | .group =>
    match expect endOffset .closeParen .closeParen tokens with
    | .ok close => .back tree frames depth close.rest
    | .error reason => .done (.error reason)
  | .enclosed enclosure items =>
    match tokens with
    | [] => .done (.error (unexpected endOffset enclosure.expected []))
    | token :: rest =>
      if token.lexeme = enclosure.close then
        .back (enclosure.whole (items ++ [tree])) frames depth rest
      else if token.lexeme = .comma then
        .call .expression (.enclosed enclosure (items ++ [tree]) :: frames) depth rest
      else .done (.error (unexpected endOffset enclosure.expected (token :: rest)))

/-- One step. A machine that has stopped stays where it is. -/
def step : State → State
  | .call construct frames depth tokens => call endOffset construct frames depth tokens
  | .back tree (frame :: frames) depth tokens => resume endOffset frame tree frames depth tokens
  | .back tree [] _ tokens =>
    if tokens.isEmpty then .done (.ok tree)
    else .done (.error (unexpected endOffset .endOfExpression tokens))
  | .done result => .done result
  | .underflow => .underflow

/-- Before the first step: an expression is to be read, at depth zero. -/
def start (tokens : List Token) : State :=
  if tokens.isEmpty then .done (.error .empty) else .call .expression [] 0 tokens

end

/-! ### What a step may do -/

namespace Frame

/-- The tree that a waiting call makes of the one that comes to it. -/
def made : Frame → Expr → Expr
  | chain _ _ before, e | comparison before, e => joined before e
  | negation, e => .unary .not e
  | sign, e => negate e
  | subscripted _ target, e => selected target e
  | group, e => e
  | enclosed enclosure items, e => enclosure.whole (items ++ [e])

/-- What the counter is when a waiting call is done, if it can be counted down. -/
def outer? : Frame → Nat → Option Nat
  | chain _ base _, _ | subscripted base _, _ => some base
  | negation, depth | sign, depth =>
    match depth with
    | 0 => none
    | outer + 1 => some outer
  | comparison _, depth | group, depth | enclosed _ _, depth => some depth

/-- A call begins to wait; the counter before and after that. -/
inductive Begins : Nat → Nat → Frame → Prop
  | expression {depth : Nat} (hlt : depth < maxDepth) :
      Begins depth (depth + 1) (.chain .disjunction depth none)
  | chain {level : Chain} (hlevel : level ≠ .disjunction) (depth : Nat) :
      Begins depth depth (.chain level depth none)
  | negation {depth : Nat} (hlt : depth < maxDepth) : Begins depth (depth + 1) .negation
  | comparison (depth : Nat) : Begins depth depth (.comparison none)
  | sign {depth : Nat} (hlt : depth < maxDepth) : Begins depth (depth + 1) .sign
  | subscripted (depth : Nat) : Begins depth depth (.subscripted depth none)
  | group (depth : Nat) : Begins depth depth .group
  | enclosed (enclosure : Enclosure) (depth : Nat) : Begins depth depth (.enclosed enclosure [])

/-- A call takes a tree and waits for more. -/
inductive Takes (tree : Expr) : Nat → Nat → Frame → Frame → Prop
  | chain {depth : Nat} (hlt : depth < maxDepth) (level : Chain) (base : Nat)
      (before : Option (Expr × BinaryOp)) (op : BinaryOp) :
      Takes tree depth (depth + 1) (.chain level base before)
        (.chain level base (some (joined before tree, op)))
  | comparison (depth : Nat) (op : BinaryOp) :
      Takes tree depth depth (.comparison none) (.comparison (some (tree, op)))
  | subscripted {depth : Nat} (hlt : depth < maxDepth) (base : Nat) (target : Option Expr) :
      Takes tree depth (depth + 1) (.subscripted base target)
        (.subscripted base (some (selected target tree)))
  | enclosed (depth : Nat) (enclosure : Enclosure) (items : List Expr) :
      Takes tree depth depth (.enclosed enclosure items) (.enclosed enclosure (items ++ [tree]))

end Frame

/-- A tree that is made of tokens at once. -/
inductive Leaf (tokens : List Token) : Expr → Prop
  | int {n : Int64} {offset : Nat} (hmem : ⟨.int n, offset⟩ ∈ tokens) :
      Leaf tokens (.literal (.int n))
  | literal {value : Literal} (hint : ∀ n, value ≠ .int n) : Leaf tokens (.literal value)
  | attr (subject : Variable) (field : Attribute) : Leaf tokens (.attr subject field)
  | empty (enclosure : Enclosure) : Leaf tokens (enclosure.whole [])

/-- All that a step may do. Which of it, depends on the next tokens. -/
inductive Move : State → State → Prop
  | tighten (c d : Construct) (frames : List Frame) (depth : Nat) (tokens : List Token) :
      Move (.call c frames depth tokens) (.call d frames depth tokens)
  | wait {frame : Frame} {depth inner : Nat} {tokens rest : List Token} (c d : Construct)
      (frames : List Frame) (hbegins : frame.Begins depth inner) (hrest : rest <:+ tokens) :
      Move (.call c frames depth tokens) (.call d (frame :: frames) inner rest)
  | leaf {tree : Expr} {tokens rest : List Token} (c : Construct) (frames : List Frame)
      (depth : Nat) (hleaf : Leaf tokens tree) (hrest : rest <:+ tokens) :
      Move (.call c frames depth tokens) (.back tree frames depth rest)
  | goOn {frame next : Frame} {tree : Expr} {depth inner : Nat} {tokens rest : List Token}
      (c : Construct) (frames : List Frame) (htakes : frame.Takes tree depth inner next)
      (hrest : rest <:+ tokens) :
      Move (.back tree (frame :: frames) depth tokens) (.call c (next :: frames) inner rest)
  | finish {frame : Frame} {depth outer : Nat} {tokens rest : List Token} (tree : Expr)
      (frames : List Frame) (houter : frame.outer? depth = some outer) (hrest : rest <:+ tokens) :
      Move (.back tree (frame :: frames) depth tokens) (.back (frame.made tree) frames outer rest)
  | underflow {frame : Frame} {depth : Nat} (tree : Expr) (frames : List Frame)
      (tokens : List Token) (houter : frame.outer? depth = none) :
      Move (.back tree (frame :: frames) depth tokens) .underflow
  | accept (tree : Expr) (depth : Nat) (tokens : List Token) :
      Move (.back tree [] depth tokens) (.done (.ok tree))
  | fail (s : State) (reason : Error) : Move s (.done (.error reason))
  | stay (result : Except Error Expr) : Move (.done result) (.done result)
  | stuck : Move .underflow .underflow

section

variable {endOffset depth inner base : Nat} {frames : List Frame} {frame next : Frame} {s t : State}
  {tokens rest : List Token} {tree : Expr} {c d : Construct}

theorem namedLiteral?_ne_int {name : String} {value : Literal}
    (hvalue : namedLiteral? name = some value) (n : Int64) : value ≠ .int n := by
  rintro rfl
  rw [namedLiteral?.eq_def] at hvalue
  split at hvalue <;> cases hvalue

theorem access_of_attributeAccess {subject : Variable} {p : Parsed Token Expr tokens.length}
    (hok : attributeAccess endOffset subject tokens = .ok p) :
    (∃ field, p.value = .attr subject field) ∧ p.rest <:+ tokens := by
  rw [attributeAccess] at hok
  obtain ⟨dot, hdot, hok⟩ := bind_eq_ok hok
  have hdot := (spells_of_expect hdot).suffix
  split at hok
  next name offset rest hrest =>
    split at hok
    next field _ =>
      cases hok
      rw [hrest] at hdot
      exact ⟨⟨field, rfl⟩, (List.suffix_cons _ rest).trans hdot⟩
    next => cases hok
  next => cases hok

theorem move_enter {call : Nat → State}
    (hmove : depth < maxDepth → Move s (call (depth + 1))) :
    Move s (enter endOffset depth tokens call) := by
  rw [enter]
  split
  next hlt => exact hmove hlt
  next => exact .fail s _

theorem move_leave (hnone : depth = 0 → Move s .underflow)
    {call : Nat → State} (hmove : ∀ outer, depth = outer + 1 → Move s (call outer)) :
    Move s (leave depth call) := by
  cases depth with
  | zero => exact hnone rfl
  | succ outer => exact hmove outer rfl

theorem move_openEnclosure {enclosure : Enclosure} (hrest : rest <:+ tokens) :
    Move (.call c frames depth tokens) (openEnclosure enclosure frames depth rest) := by
  unfold openEnclosure
  split
  next token more =>
    split
    next =>
      exact .leaf c frames depth (.empty enclosure) ((List.suffix_cons token more).trans hrest)
    next => exact .wait c .expression frames (.enclosed enclosure depth) hrest
  next => exact .wait c .expression frames (.enclosed enclosure depth) hrest

theorem move_callPrimary :
    Move (.call c frames depth tokens) (callPrimary endOffset frames depth tokens) := by
  unfold callPrimary
  split
  next n offset rest =>
    exact .leaf c frames depth (.int List.mem_cons_self) (List.suffix_cons _ rest)
  next text offset rest =>
    exact .leaf c frames depth (.literal fun n hn => by cases hn) (List.suffix_cons _ rest)
  next offset rest => exact .wait c .expression frames (.group depth) (List.suffix_cons _ rest)
  next offset rest => exact move_openEnclosure (List.suffix_cons _ rest)
  next name offset rest =>
    split
    next value _ hvalue =>
      exact .leaf c frames depth (.literal (namedLiteral?_ne_int hvalue)) (List.suffix_cons _ rest)
    next subject _ _ =>
      cases haccess : attributeAccess endOffset subject rest with
      | error reason => exact .fail _ reason
      | ok access =>
          obtain ⟨⟨field, hvalue⟩, hsuffix⟩ := access_of_attributeAccess haccess
          rw [outcome, hvalue]
          exact .leaf c frames depth (.attr subject field) (hsuffix.trans (List.suffix_cons _ rest))
    next =>
      split
      next place inside =>
        split
        next => exact .fail _ _
        next function _ =>
          exact move_openEnclosure
            ((List.suffix_cons _ inside).trans (List.suffix_cons _ _))
      next => exact .fail _ _
  next => exact .fail _ _

theorem move_call :
    Move (.call c frames depth tokens) (call endOffset c frames depth tokens) := by
  have hall := List.suffix_refl tokens
  unfold call
  split
  next => exact move_enter fun hlt => .wait _ _ frames (.expression hlt) hall
  next level hlevel => exact .wait _ _ frames (.chain (by rintro rfl; exact hlevel rfl) depth) hall
  next =>
    split
    next token rest =>
      split
      next =>
        exact move_enter fun hlt => .wait _ _ frames (.negation hlt) (List.suffix_cons token rest)
      next => exact .tighten _ _ frames depth _
    next => exact .tighten _ _ frames depth _
  next => exact .wait _ _ frames (.comparison depth) hall
  next =>
    split
    next token rest =>
      split
      next => exact move_enter fun hlt => .wait _ _ frames (.sign hlt) (List.suffix_cons token rest)
      next => exact .tighten _ _ frames depth _
    next => exact .tighten _ _ frames depth _
  next => exact .wait _ _ frames (.subscripted depth) hall
  next => exact move_callPrimary

theorem move_goOnChain {level : Chain} {before : Option (Expr × BinaryOp)} :
    Move (.back tree (.chain level base before :: frames) depth tokens)
      (goOnChain endOffset level base (joined before tree) frames depth tokens) := by
  unfold goOnChain
  split
  next token rest =>
    split
    next op _ =>
      exact move_enter fun hlt =>
        .goOn _ frames (.chain hlt level base before op) (List.suffix_cons token rest)
    next => exact .finish tree frames rfl (List.suffix_refl _)
  next => exact .finish tree frames rfl (List.suffix_refl _)

theorem move_goOnSubscripts {target : Option Expr} (hrest : rest <:+ tokens) :
    Move (.back tree (.subscripted base target :: frames) depth tokens)
      (goOnSubscripts endOffset base (selected target tree) frames depth rest) := by
  unfold goOnSubscripts
  split
  next token more =>
    split
    next =>
      exact move_enter fun hlt =>
        .goOn _ frames (.subscripted hlt base target) ((List.suffix_cons token more).trans hrest)
    next => exact .finish tree frames rfl hrest
  next => exact .finish tree frames rfl hrest

theorem move_resume :
    Move (.back tree (frame :: frames) depth tokens)
      (resume endOffset frame tree frames depth tokens) := by
  unfold resume
  split
  next => exact move_goOnChain
  next =>
    refine move_leave (fun hzero => ?_) fun outer houter => ?_
    · exact .underflow tree frames tokens (by rw [hzero]; rfl)
    · exact .finish tree frames (by rw [houter]; rfl) (List.suffix_refl _)
  next =>
    split
    next token rest =>
      split
      next op _ => exact .goOn _ frames (.comparison depth op) (List.suffix_cons token rest)
      next => exact .finish tree frames rfl (List.suffix_refl _)
    next => exact .finish tree frames rfl (List.suffix_refl _)
  next =>
    split
    next => exact .fail _ _
    next => exact .finish tree frames rfl (List.suffix_refl _)
  next =>
    refine move_leave (fun hzero => ?_) fun outer houter => ?_
    · exact .underflow tree frames tokens (by rw [hzero]; rfl)
    · exact .finish tree frames (by rw [houter]; rfl) (List.suffix_refl _)
  next => exact move_goOnSubscripts (List.suffix_refl _)
  next =>
    split
    next hclose => exact move_goOnSubscripts (spells_of_expect hclose).suffix
    next => exact .fail _ _
  next =>
    split
    next hclose => exact .finish tree frames rfl (spells_of_expect hclose).suffix
    next => exact .fail _ _
  next =>
    split
    next => exact .fail _ _
    next token rest =>
      split
      next => exact .finish tree frames rfl (List.suffix_cons token rest)
      next =>
        split
        next => exact .goOn _ frames (.enclosed depth _ _) (List.suffix_cons token rest)
        next => exact .fail _ _

/-- A step does nothing else. -/
theorem move_step (endOffset : Nat) (s : State) : Move s (step endOffset s) := by
  cases s with
  | call c frames depth tokens => exact move_call
  | back tree frames depth tokens =>
      cases frames with
      | cons frame frames => exact move_resume
      | nil =>
          rw [step]
          split
          next => exact .accept tree depth tokens
          next => exact .fail _ _
  | done result => exact .stay result
  | underflow => exact .stuck

theorem Move.tokens_suffix (hmove : Move s t) : t.tokens <:+ s.tokens := by
  cases hmove with
  | tighten => exact List.suffix_refl _
  | wait _ _ _ _ hrest | leaf _ _ _ _ hrest | goOn _ _ _ hrest | finish _ _ _ hrest => exact hrest
  | underflow | accept | fail | stay | stuck => exact List.nil_suffix

/-- What every move keeps holds throughout a run. -/
theorem run_keeps {P : State → Prop} (hmove : ∀ {s t}, Move s t → P s → P t) (hs : P s)
    (endOffset n : Nat) : P ((step endOffset)^[n] s) := by
  induction n with
  | zero => exact hs
  | succ n ih =>
      rw [Function.iterate_succ_apply']
      exact hmove (move_step endOffset _) ih

end

end Descent

end Apprentice.Expr
