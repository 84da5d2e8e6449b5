import Apprentice.Proofs.Expr.Returns

/-!
# Where the tokens stand

Tokens carry the place where they begin, and errors report it. A step of the machine decides what to
do by the lexemes, by the depth and by the calls that wait, so forgetting the places before a step
comes to the same as forgetting them after it. A whole run is as many steps of the same kind. So the
limit on the depth is met in the same texts however they are spaced, and a tree that is read depends
on the lexemes alone.
-/

namespace Apprentice.Expr

def Token.unplaced (token : Token) : Token :=
  ⟨token.lexeme, 0⟩

@[simp] theorem Token.unplaced_unplaced (token : Token) :
    token.unplaced.unplaced = token.unplaced :=
  rfl

@[simp] theorem Token.lexeme_unplaced (token : Token) : token.unplaced.lexeme = token.lexeme :=
  rfl

namespace Descent

/-- A state without the places of its tokens. Which error a run ends in may depend on places, and is
forgotten too. -/
def State.unplaced : State → State
  | .call construct frames depth tokens =>
    .call construct frames depth (tokens.map Token.unplaced)
  | .back tree frames depth tokens => .back tree frames depth (tokens.map Token.unplaced)
  | .done (.ok tree) => .done (.ok tree)
  | .done (.error _) => .done (.error .empty)
  | .underflow => .underflow

variable {endOffset depth base : Nat} {frames : List Frame} {frame : Frame} {s t : State}
  {tokens : List Token} {tree : Expr} {c : Construct}

theorem unplaced_enter {next next' : Nat → State}
    (hnext : ∀ inner, (next inner).unplaced = (next' inner).unplaced) :
    (enter endOffset depth tokens next).unplaced =
      (enter 0 depth (tokens.map Token.unplaced) next').unplaced := by
  rw [enter, enter]
  split
  next => exact hnext _
  next => rfl

theorem unplaced_leave {next next' : Nat → State}
    (hnext : ∀ outer, (next outer).unplaced = (next' outer).unplaced) :
    (leave depth next).unplaced = (leave depth next').unplaced := by
  cases depth with
  | zero => rfl
  | succ outer => exact hnext outer

theorem unplaced_openEnclosure (enclosure : Enclosure) :
    (openEnclosure enclosure frames depth tokens).unplaced =
      (openEnclosure enclosure frames depth (tokens.map Token.unplaced)).unplaced := by
  cases tokens with
  | nil => rfl
  | cons token rest =>
      rw [List.map_cons, openEnclosure, openEnclosure, Token.unplaced]
      dsimp only
      split <;> simp [State.unplaced, Token.unplaced]

theorem outcome_attributeAccess (endOffset : Nat) (subject : Variable) (name : String)
    (dot place : Nat) (rest : List Token) :
    outcome id frames depth
        (attributeAccess endOffset subject (⟨.dot, dot⟩ :: ⟨.ident name, place⟩ :: rest)) =
      match Attribute.ofLabel? name with
      | some field => .back (.attr subject field) frames depth rest
      | none => .done (.error (.unknownAttribute name place)) := by
  cases hfield : Attribute.ofLabel? name with
  | some field =>
      rw [attributeAccess]
      simp [expect, hfield, bind, Except.bind, outcome, pure, Except.pure]
  | none =>
      rw [attributeAccess]
      simp [expect, hfield, bind, Except.bind, outcome]

theorem unplaced_attributeAccess (subject : Variable) :
    (outcome id frames depth (attributeAccess endOffset subject tokens)).unplaced =
      (outcome id frames depth
        (attributeAccess 0 subject (tokens.map Token.unplaced))).unplaced := by
  rcases tokens with _ | ⟨⟨mark, dot⟩, rest⟩
  · rfl
  cases mark with
  | dot =>
      rcases rest with _ | ⟨⟨label, place⟩, rest⟩
      · rfl
      cases label with
      | ident name =>
          rw [List.map_cons, List.map_cons, Token.unplaced, Token.unplaced,
            outcome_attributeAccess, outcome_attributeAccess]
          cases Attribute.ofLabel? name <;> simp [State.unplaced]
      | _ => rfl
  | _ => rfl

theorem unplaced_callPrimary :
    (callPrimary endOffset frames depth tokens).unplaced =
      (callPrimary 0 frames depth (tokens.map Token.unplaced)).unplaced := by
  rcases tokens with _ | ⟨⟨first, offset⟩, rest⟩
  · rfl
  cases first with
  | ident name =>
      simp only [callPrimary, List.map_cons, Token.unplaced]
      cases namedLiteral? name with
      | some value => simp [State.unplaced]
      | none =>
          cases Variable.ofName? name with
          | some subject => exact unplaced_attributeAccess subject
          | none =>
              -- any other name is that of a function, if there is a parenthesis behind it
              rcases rest with _ | ⟨⟨mark, place⟩, inside⟩
              · rfl
              cases mark with
              | openParen =>
                  simp only [List.map_cons, Token.unplaced]
                  cases Function.ofName? name with
                  | none => rfl
                  | some function => exact unplaced_openEnclosure (.call function)
              | _ => rfl
  | openBracket => exact unplaced_openEnclosure .list
  | int | str | openParen => simp [callPrimary, Token.unplaced, State.unplaced]
  | _ => rfl

theorem unplaced_call :
    (call endOffset c frames depth tokens).unplaced =
      (call 0 c frames depth (tokens.map Token.unplaced)).unplaced := by
  cases c with
  | chain level =>
      cases level with
      | disjunction =>
          rw [call_expression, call_expression]
          exact unplaced_enter fun inner => by simp [State.unplaced]
      | _ => simp [call, State.unplaced]
  | negation | signed =>
      cases tokens with
      | nil => rfl
      | cons token rest =>
          simp only [call, List.map_cons, Token.unplaced]
          split
          next => exact unplaced_enter fun inner => by simp [State.unplaced]
          next => simp [State.unplaced, Token.unplaced]
  | comparison | subscripted => simp [call, State.unplaced]
  | primary => exact unplaced_callPrimary

theorem unplaced_goOnChain {level : Chain} {left : Expr} :
    (goOnChain endOffset level base left frames depth tokens).unplaced =
      (goOnChain 0 level base left frames depth (tokens.map Token.unplaced)).unplaced := by
  cases tokens with
  | nil => rfl
  | cons token rest =>
      simp only [goOnChain, List.map_cons, Token.unplaced]
      cases level.operator? token.lexeme with
      | some op => exact unplaced_enter fun inner => by simp [State.unplaced]
      | none => simp [State.unplaced, Token.unplaced]

theorem unplaced_goOnSubscripts {target : Expr} :
    (goOnSubscripts endOffset base target frames depth tokens).unplaced =
      (goOnSubscripts 0 base target frames depth (tokens.map Token.unplaced)).unplaced := by
  cases tokens with
  | nil => rfl
  | cons token rest =>
      simp only [goOnSubscripts, List.map_cons, Token.unplaced]
      split
      next => exact unplaced_enter fun inner => by simp [State.unplaced]
      next => simp [State.unplaced, Token.unplaced]

def afterMark (endOffset : Nat) (mark : Lexeme) (expected : Expectation)
    (next : List Token → State) : List Token → State
  | token :: rest =>
    if token.lexeme = mark then next rest
    else .done (.error (unexpected endOffset expected (token :: rest)))
  | [] => .done (.error (unexpected endOffset expected []))

theorem resume_subscripted (target : Expr) :
    resume endOffset (.subscripted base (some target)) tree frames depth tokens =
      afterMark endOffset .closeBracket .closeBracket
        (goOnSubscripts endOffset base (.index target tree) frames depth) tokens := by
  cases tokens with
  | nil => rfl
  | cons token rest =>
      by_cases hmark : token.lexeme = .closeBracket <;> simp [resume, expect, afterMark, hmark]

theorem resume_group :
    resume endOffset .group tree frames depth tokens =
      afterMark endOffset .closeParen .closeParen (.back tree frames depth) tokens := by
  cases tokens with
  | nil => rfl
  | cons token rest =>
      by_cases hmark : token.lexeme = .closeParen <;> simp [resume, expect, afterMark, hmark]

theorem unplaced_afterMark {mark : Lexeme} {expected : Expectation}
    {next next' : List Token → State}
    (hnext : ∀ rest, (next rest).unplaced = (next' (rest.map Token.unplaced)).unplaced) :
    (afterMark endOffset mark expected next tokens).unplaced =
      (afterMark 0 mark expected next' (tokens.map Token.unplaced)).unplaced := by
  cases tokens with
  | nil => rfl
  | cons token rest =>
      simp only [afterMark, List.map_cons, Token.unplaced]
      split
      next => exact hnext rest
      next => rfl

theorem unplaced_resume :
    (resume endOffset frame tree frames depth tokens).unplaced =
      (resume 0 frame tree frames depth (tokens.map Token.unplaced)).unplaced := by
  cases frame with
  | chain => exact unplaced_goOnChain
  | negation | sign => exact unplaced_leave fun outer => by simp [State.unplaced]
  | comparison before =>
      cases before with
      | none =>
          cases tokens with
          | nil => rfl
          | cons token rest =>
              simp only [resume, List.map_cons, Token.lexeme_unplaced]
              cases comparison? token.lexeme <;> simp [State.unplaced]
      | some before =>
          have hnext : (((tokens.map Token.unplaced).head?).bind fun t => comparison? t.lexeme) =
              tokens.head?.bind fun t => comparison? t.lexeme := by
            cases tokens <;> rfl
          simp only [resume, hnext]
          split <;> simp [State.unplaced]
  | subscripted base target =>
      cases target with
      | none => exact unplaced_goOnSubscripts
      | some target =>
          rw [resume_subscripted, resume_subscripted]
          exact unplaced_afterMark fun rest => unplaced_goOnSubscripts
  | group =>
      rw [resume_group, resume_group]
      exact unplaced_afterMark fun rest => by simp [State.unplaced]
  | enclosed enclosure items =>
      cases tokens with
      | nil => rfl
      | cons token rest =>
          simp only [resume, List.map_cons, Token.unplaced]
          split
          next => simp [State.unplaced]
          next => split <;> simp [State.unplaced]

theorem unplaced_step (endOffset : Nat) (s : State) :
    (step endOffset s).unplaced = (step 0 s.unplaced).unplaced := by
  cases s with
  | call => exact unplaced_call
  | back tree frames depth tokens =>
      cases frames with
      | cons frame frames => exact unplaced_resume
      | nil =>
          cases tokens <;> rfl
  | done result => cases result <;> rfl
  | underflow => rfl

theorem unplaced_unplaced (s : State) : s.unplaced.unplaced = s.unplaced := by
  cases s with
  | done result => cases result <;> rfl
  | _ => simp [State.unplaced]

/-- Nothing that a run does depends on places. -/
theorem unplaced_iterate (endOffset n : Nat) (s : State) :
    ((step endOffset)^[n] s).unplaced = ((step 0)^[n] s.unplaced).unplaced := by
  induction n with
  | zero => exact (unplaced_unplaced s).symm
  | succ n ih =>
      rw [Function.iterate_succ_apply', Function.iterate_succ_apply', unplaced_step, ih,
        ← unplaced_step]

theorem unplaced_start {tokens tokens' : List Token}
    (hlexemes : tokens.map Token.lexeme = tokens'.map Token.lexeme) :
    (start tokens).unplaced = (start tokens').unplaced := by
  have hunplaced : ∀ ts : List Token, ts.map Token.unplaced = (ts.map Token.lexeme).map (⟨·, 0⟩) :=
    fun ts => by rw [List.map_map]; rfl
  have hempty : tokens.isEmpty = tokens'.isEmpty := by
    rw [← List.isEmpty_map (f := Token.lexeme), hlexemes, List.isEmpty_map]
  rw [start, start, hempty]
  split
  next => rfl
  next => rw [State.unplaced, State.unplaced, hunplaced, hunplaced, hlexemes]

end Descent

open Descent in
/-- Whether tokens are read, and as which tree, depends on their lexemes only. -/
theorem toOption_parse_eq {tokens tokens' : List Token} (endOffset endOffset' : Nat)
    (hlexemes : tokens.map Token.lexeme = tokens'.map Token.lexeme) :
    (parse endOffset tokens).toOption = (parse endOffset' tokens').toOption := by
  obtain ⟨n, hends⟩ := (above_start endOffset tokens).iterate
  obtain ⟨n', hends'⟩ := (above_start endOffset' tokens').iterate
  -- both runs are over after as many steps as the two take together
  have hover : (step endOffset)^[n' + n] (start tokens) = .done (parse endOffset tokens) := by
    rw [Function.iterate_add_apply, hends]
    exact Function.iterate_fixed rfl n'
  have hover' : (step endOffset')^[n' + n] (start tokens') = .done (parse endOffset' tokens') := by
    rw [Nat.add_comm, Function.iterate_add_apply, hends']
    exact Function.iterate_fixed rfl n
  have hsame : (State.done (parse endOffset tokens)).unplaced =
      (State.done (parse endOffset' tokens')).unplaced := by
    rw [← hover, ← hover', unplaced_iterate, unplaced_iterate endOffset', unplaced_start hlexemes]
  cases hread : parse endOffset tokens <;> cases hread' : parse endOffset' tokens' <;>
    rw [hread, hread'] at hsame <;> cases hsame <;> rfl

end Apprentice.Expr
