import Apprentice.Proofs.Expr.Descent

/-!
# The machine does what the parsers do

A call comes to what its parser gives: with the counter of levels as it was at the call, and without
touching the calls that wait below it. So the machine always stops, with the answer of `parse`.
-/

namespace Apprentice.Expr.Descent

/-! ### Runs above waiting calls -/

/-- Steps from a state to another one with given frames at the bottom of the stack all the way. -/
inductive Above (endOffset : Nat) (kept : List Frame) : State → State → Prop
  | stay (s : State) : Above endOffset kept s s
  | next {s t : State} (hkept : kept <:+ s.frames)
      (hthen : Above endOffset kept (step endOffset s) t) : Above endOffset kept s t

variable {α β : Type} {whole : α → Expr} {endOffset room depth base n k : Nat}
  {frames kept fewer : List Frame} {frame : Frame} {s t u : State} {tokens : List Token}
  {tree left : Expr} {level : Chain} {c : Construct}

theorem Above.trans (hfirst : Above endOffset kept s t) (hthen : Above endOffset kept t u) :
    Above endOffset kept s u := by
  induction hfirst with
  | stay => exact hthen
  | next hkept _ ih => exact .next hkept (ih hthen)

theorem Above.mono (habove : Above endOffset kept s t) (hfewer : fewer <:+ kept) :
    Above endOffset fewer s t := by
  induction habove with
  | stay => exact .stay _
  | next hkept _ ih => exact .next (hfewer.trans hkept) ih

theorem Above.iterate (habove : Above endOffset kept s t) : ∃ n, (step endOffset)^[n] s = t := by
  induction habove with
  | stay => exact ⟨0, rfl⟩
  | next _ _ ih =>
      obtain ⟨n, hn⟩ := ih
      exact ⟨n + 1, hn⟩

theorem above_call (hthen : Above endOffset frames (call endOffset c frames depth tokens) t) :
    Above endOffset frames (.call c frames depth tokens) t :=
  .next (List.suffix_refl frames) hthen

theorem above_back
    (hthen : Above endOffset frames (resume endOffset frame tree frames depth tokens) t) :
    Above endOffset frames (.back tree (frame :: frames) depth tokens) t :=
  .next (List.suffix_cons frame frames) hthen

theorem above_enter {f : Nat → Except Error (Parsed Token α n)} {next : Nat → State}
    (hroom : depth + room = maxDepth)
    (hthen : ∀ inner, depth + 1 + inner = maxDepth →
      Above endOffset kept (next (depth + 1)) (outcome whole frames base (f inner))) :
    Above endOffset kept (enter endOffset depth tokens next)
      (outcome whole frames base (deeper endOffset room tokens >>= f)) := by
  cases room with
  | zero =>
      rw [enter, if_neg (by omega)]
      exact .stay _
  | succ inner =>
      rw [enter, if_pos (by omega)]
      exact hthen inner (by omega)

/-- A call that waits for another one goes on with what that one reads. -/
theorem Above.bind {x : Except Error (Parsed Token Expr n)}
    {f : Parsed Token Expr n → Except Error (Parsed Token α k)}
    (hfirst : Above endOffset (frame :: frames) s (outcome id (frame :: frames) depth x))
    (hthen : ∀ p, Above endOffset frames (resume endOffset frame p.value frames depth p.rest)
      (outcome whole frames base (f p))) :
    Above endOffset frames s (outcome whole frames base (x >>= f)) := by
  refine (hfirst.mono (List.suffix_cons frame frames)).trans ?_
  cases x with
  | error reason => exact .stay _
  | ok p => exact above_back (hthen p)

/-- It makes no difference whether a tree is made before or after what is read is handed on. -/
theorem outcome_bind (inner : β → Expr) {x : Except Error (Parsed Token β n)}
    {f : Parsed Token β n → Except Error (Parsed Token α k)}
    (hsame : ∀ p, outcome whole frames depth (f p) = .back (inner p.value) frames depth p.rest) :
    outcome whole frames depth (x >>= f) = outcome inner frames depth x := by
  cases x with
  | error reason => rfl
  | ok p => exact hsame p

/-! ### Calls do what the parsers do -/

-- The recursion is that of the parsers. What they have room for and what is counted add up to the
-- limit at every call.
mutual

theorem above_expression {room depth : Nat} {frames : List Frame} {tokens : List Token}
    (hroom : depth + room = maxDepth) :
    Above endOffset frames (.call .expression frames depth tokens)
      (outcome id frames depth (expression endOffset room tokens)) := by
  rw [expression]
  refine above_call ?_
  rw [call_expression]
  refine above_enter hroom fun inner hinner => ?_
  exact above_chain hinner
termination_by (tokens.length, 14)

theorem above_chain {room depth base : Nat} {frames : List Frame} {tokens : List Token}
    {level : Chain} (hroom : depth + room = maxDepth) :
    Above endOffset frames (.call level.operands (.chain level base none :: frames) depth tokens)
      (outcome id frames base (chain endOffset level room tokens)) := by
  rw [chain]
  refine Above.bind (above_operand hroom) fun first => ?_
  have := first.shorter
  rw [outcome_bind id fun _ => rfl]
  exact above_links hroom
termination_by (tokens.length, level.rank + 1)

theorem above_links {room depth base : Nat} {frames : List Frame} {tokens : List Token}
    {level : Chain} {left : Expr} (hroom : depth + room = maxDepth) :
    Above endOffset frames (goOnChain endOffset level base left frames depth tokens)
      (outcome id frames base (links endOffset level room left tokens)) := by
  match tokens with
  | [] =>
    rw [links]
    exact .stay _
  | token :: rest =>
    rw [links, goOnChain]
    cases level.operator? token.lexeme with
    | none => exact .stay _
    | some op =>
        refine above_enter hroom fun inner hinner => ?_
        refine Above.bind (above_operand hinner) fun right => ?_
        have := right.shorter
        rw [outcome_bind id fun _ => rfl]
        exact above_links hinner
termination_by (tokens.length, 0)

theorem above_operand {room depth : Nat} {frames : List Frame} {tokens : List Token} {level : Chain}
    (hroom : depth + room = maxDepth) :
    Above endOffset frames (.call level.operands frames depth tokens)
      (outcome id frames depth (operand endOffset level room tokens)) := by
  cases level <;> rw [operand]
  case disjunction => exact above_call (above_chain hroom)
  case conjunction => exact above_negation hroom
  case sum => exact above_call (above_chain hroom)
  case product => exact above_signed hroom
termination_by (tokens.length, level.rank)

theorem above_negation {room depth : Nat} {frames : List Frame} {tokens : List Token}
    (hroom : depth + room = maxDepth) :
    Above endOffset frames (.call .negation frames depth tokens)
      (outcome id frames depth (negation endOffset room tokens)) := by
  refine above_call ?_
  match tokens with
  | [] =>
    rw [negation]
    exact above_comparison hroom
  | token :: rest =>
    rw [negation]
    dsimp only [call]
    split
    next =>
      refine above_enter hroom fun inner hinner => ?_
      exact Above.bind (above_negation hinner) fun operand => .stay _
    next => exact above_comparison hroom
termination_by (tokens.length, 9)

theorem above_comparison {room depth : Nat} {frames : List Frame} {tokens : List Token}
    (hroom : depth + room = maxDepth) :
    Above endOffset frames (.call .comparison frames depth tokens)
      (outcome id frames depth (comparison endOffset room tokens)) := by
  rw [comparison]
  refine above_call ?_
  refine Above.bind (above_call (above_chain hroom)) fun first => ?_
  obtain ⟨left, rest, hshorter⟩ := first
  match rest with
  | [] => exact .stay _
  | token :: rest =>
    have := Nat.lt_of_succ_lt hshorter
    rw [resume]
    dsimp only
    cases comparison? token.lexeme with
    | none => exact .stay _
    | some op =>
        refine Above.bind (above_call (above_chain hroom)) fun right => ?_
        rw [resume]
        split <;> exact .stay _
termination_by (tokens.length, 8)

theorem above_signed {room depth : Nat} {frames : List Frame} {tokens : List Token}
    (hroom : depth + room = maxDepth) :
    Above endOffset frames (.call .signed frames depth tokens)
      (outcome id frames depth (signed endOffset room tokens)) := by
  refine above_call ?_
  match tokens with
  | [] =>
    rw [signed]
    exact above_subscripted hroom
  | token :: rest =>
    rw [signed]
    dsimp only [call]
    split
    next =>
      refine above_enter hroom fun inner hinner => ?_
      exact Above.bind (above_signed hinner) fun operand => .stay _
    next => exact above_subscripted hroom
termination_by (tokens.length, 2)

theorem above_subscripted {room depth : Nat} {frames : List Frame} {tokens : List Token}
    (hroom : depth + room = maxDepth) :
    Above endOffset frames (.call .subscripted frames depth tokens)
      (outcome id frames depth (subscripted endOffset room tokens)) := by
  rw [subscripted]
  refine above_call ?_
  refine Above.bind (above_primary hroom) fun target => ?_
  have := target.shorter
  rw [outcome_bind id fun _ => rfl]
  exact above_subscripts hroom
termination_by (tokens.length, 1)

theorem above_subscripts {room depth base : Nat} {frames : List Frame} {tokens : List Token}
    {target : Expr} (hroom : depth + room = maxDepth) :
    Above endOffset frames (goOnSubscripts endOffset base target frames depth tokens)
      (outcome id frames base (subscripts endOffset room target tokens)) := by
  match tokens with
  | [] =>
    rw [subscripts]
    exact .stay _
  | token :: rest =>
    rw [subscripts, goOnSubscripts]
    split
    next =>
      refine above_enter hroom fun inner hinner => ?_
      refine Above.bind (above_expression hinner) fun index => ?_
      rw [resume]
      cases expect endOffset .closeBracket .closeBracket index.rest with
      | error reason => exact .stay _
      | ok close =>
          have := Nat.lt_trans close.shorter index.shorter
          change Above endOffset frames _ (outcome id frames base (subscripts _ _ _ _ >>= _))
          rw [outcome_bind id fun _ => rfl]
          exact above_subscripts hinner
    next => exact .stay _
termination_by (tokens.length, 0)

theorem above_primary {room depth : Nat} {frames : List Frame} {tokens : List Token}
    (hroom : depth + room = maxDepth) :
    Above endOffset frames (.call .primary frames depth tokens)
      (outcome id frames depth (primary endOffset room tokens)) := by
  refine above_call ?_
  rw [primary.eq_def]
  match tokens with
  | [] => exact .stay _
  | ⟨lexeme, offset⟩ :: rest =>
    cases lexeme with
    | openParen =>
        refine Above.bind (above_expression hroom) fun inner => ?_
        rw [resume]
        cases expect endOffset .closeParen .closeParen inner.rest <;> exact .stay _
    | openBracket =>
        change Above endOffset frames _ (outcome id frames depth (enclosed _ _ _ _ _ >>= _))
        rw [outcome_bind Enclosure.list.whole fun _ => rfl]
        exact above_enclosed hroom
    | ident name =>
        dsimp only [call, callPrimary]
        cases namedLiteral? name with
        | some value => exact .stay _
        | none =>
            cases Variable.ofName? name with
            | some subject =>
                dsimp only
                rw [outcome_bind id fun _ => rfl]
                exact .stay _
            | none =>
                match rest with
                | [] => exact .stay _
                | ⟨lexeme, place⟩ :: inside =>
                  cases lexeme with
                  | openParen =>
                      cases Function.ofName? name with
                      | none => exact .stay _
                      | some function =>
                          dsimp only
                          rw [outcome_bind (Enclosure.call function).whole fun _ => rfl]
                          exact above_enclosed hroom
                  | _ => exact .stay _
    | _ => exact .stay _
termination_by (tokens.length, 0)

theorem above_enclosed {room depth : Nat} {frames : List Frame} {tokens : List Token}
    {enclosure : Enclosure} (hroom : depth + room = maxDepth) :
    Above endOffset frames (openEnclosure enclosure frames depth tokens)
      (outcome enclosure.whole frames depth
        (enclosed endOffset room enclosure.close enclosure.expected tokens)) := by
  match tokens with
  | [] =>
    rw [enclosed]
    exact above_items [] hroom
  | token :: rest =>
    rw [enclosed, openEnclosure]
    split
    next => exact .stay _
    next => exact above_items [] hroom
termination_by (tokens.length, 16)

theorem above_items {room depth : Nat} {frames : List Frame} {tokens : List Token}
    {enclosure : Enclosure} (before : List Expr) (hroom : depth + room = maxDepth) :
    Above endOffset frames (.call .expression (.enclosed enclosure before :: frames) depth tokens)
      (outcome (fun read => enclosure.whole (before ++ read)) frames depth
        (items endOffset room enclosure.close enclosure.expected tokens)) := by
  rw [items]
  refine Above.bind (above_expression hroom) fun first => ?_
  obtain ⟨item, rest, hshorter⟩ := first
  match rest with
  | [] => exact .stay _
  | token :: rest =>
    have := Nat.lt_of_succ_lt hshorter
    rw [resume]
    dsimp only
    split
    next => exact .stay _
    next =>
      split
      next =>
        rw [outcome_bind fun read => enclosure.whole ((before ++ [item]) ++ read)]
        · exact above_items (before ++ [item]) hroom
        · intro p
          rw [List.append_assoc]
          rfl
      next => exact .stay _
termination_by (tokens.length, 15)

end

def reader (endOffset : Nat) : Construct → Nat → (tokens : List Token) →
    Except Error (Parsed Token Expr tokens.length)
  | .expression => Expr.expression endOffset
  | .chain level => Expr.chain endOffset level
  | .negation => Expr.negation endOffset
  | .comparison => Expr.comparison endOffset
  | .signed => Expr.signed endOffset
  | .subscripted => Expr.subscripted endOffset
  | .primary => Expr.primary endOffset

theorem above_start (endOffset : Nat) (tokens : List Token) :
    Above endOffset [] (start tokens) (.done (parse endOffset tokens)) := by
  rw [start, parse]
  split
  next => exact .stay _
  next =>
    refine (above_expression (Nat.zero_add maxDepth)).trans ?_
    cases expression endOffset maxDepth tokens with
    | error reason => exact .stay _
    | ok whole =>
        refine .next (List.nil_suffix) ?_
        dsimp only [outcome, step]
        split
        next hempty =>
          change Above endOffset [] _ (.done (if whole.rest.isEmpty then _ else _))
          rw [if_pos hempty]
          exact .stay _
        next hrest =>
          change Above endOffset [] _ (.done (if whole.rest.isEmpty then _ else _))
          rw [if_neg hrest]
          exact .stay _

end Apprentice.Expr.Descent
