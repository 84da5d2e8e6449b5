import Apprentice.Action.Execution
import Apprentice.Proofs.World.InPlace

/-!
# Actions in place

Carrying out an action on a world that is changed in place. Every change calls an operation in
place, and what that has done by the time it fails is there when the miss is reported; what a check
has done is there when the command is begun. It all comes to what the execution of the action gives,
since the operations leave nothing behind when they fail and no change does anything after its
operation.
-/

namespace Apprentice

variable {ε α β : Type} {w : World}

/-- A program that changes a world and may miss. It does not take back what it has done when it
misses. -/
abbrev Deed (α : Type) := EStateM Miss World α

namespace Deed

/-! ### Changes -/

def ask (look : World → Except Miss α) : Deed α := do
  match look (← get) with
  | .ok a => return a
  | .error cause => throw cause

def call (program : InPlace WorldError α) : Deed α :=
  program.adaptExcept fun cause => .refused (.world cause)

/-- Tries a program, and goes on from what it has made of the world, also if it has failed. -/
def attempt (program : InPlace ε α) : Deed (Except ε α) := fun w =>
  match program.run w with
  | .ok a next => .ok (.ok a) next
  | .error cause next => .ok (.error cause) next

def create (description : Description) (name : Option String) : Deed StepOutcome := do
  let blueprint ← ask fun _ => (description.synthesize name).mapError fun cause =>
    .refused (.unsatisfiable cause)
  let id ← call (InPlace.create blueprint)
  return ⟨"Created " ++ (← get).nameOf id ++ " (" ++ description.phrase ++ ").", .created id⟩

def take (target : Target) : Deed StepOutcome := do
  let o ← ask target.resolve
  match o.owner, (← get).containerOf? o.id with
  | .agent, _ => return ⟨"I already have " ++ o.name ++ ".", .object o.id⟩
  | .user, _ => throw (.unavailable o.name .belongsToUser)
  | .world, some container =>
    throw (.unavailable o.name (.insideContainer ((← get).nameOf container)))
  | .world, none =>
    call (InPlace.setOwner o.id .agent)
    return ⟨"I took " ++ o.name ++ ".", .object o.id⟩

def give (target : Target) (recipient : Owner) : Deed StepOutcome := do
  let o ← ask target.resolve
  if o.owner ≠ .agent then
    throw (.unavailable o.name .notHeld)
  call (InPlace.setOwner o.id recipient)
  return ⟨"I gave " ++ o.name ++ " to " ++ Attempt.receiver recipient ++ ".", .object o.id⟩

def destroy (target : Target) : Deed StepOutcome := do
  let o ← ask target.resolve
  match ← attempt (InPlace.remove o.id) with
  | .ok removed => return ⟨"Destroyed " ++ removed.name ++ ".", .object o.id⟩
  | .error (.refused cause) => throw (.refused (.world cause))
  | .error .aborted => return ⟨"", .aborted⟩

def put (target container : Target) : Deed StepOutcome := do
  let o ← ask target.resolve
  let into ← ask container.resolve
  if o.owner = .user then
    throw (.unavailable o.name .belongsToUser)
  call (InPlace.putInto o.id into.id)
  return ⟨"I put " ++ o.name ++ " in " ++ into.name ++ ".", .object o.id⟩

def retrieve (name : String) : Deed StepOutcome := do
  let o ← ask (resolveNamed name)
  let w ← get
  match w.containerOf? o.id with
  | none => return ⟨name ++ " is not inside anything.", .object o.id⟩
  | some container =>
    let _ ← call (InPlace.takeOut o.id)
    return ⟨"I got " ++ name ++ " out of " ++ w.nameOf container ++ ".", .object o.id⟩

def settle (deed : Deed StepOutcome) (w : World) : StepOutcome × World :=
  match deed.run w with
  | .ok outcome next => (outcome, next)
  | .error cause next => (.ofMiss cause, next)

/-! ### Runs of the changes -/

theorem run_ask_bind {look : World → Except Miss α} {f : α → Deed β}
    {g : α → Except Miss (β × World)} (hthen : ∀ a, (f a).run w = InPlace.ending w (g a)) :
    (ask look >>= f).run w = InPlace.ending w (look w >>= g) := by
  simp only [ask, EStateM.run_bind, EStateM.run_get]
  cases look w with
  | error cause => rfl
  | ok a => exact hthen a

theorem run_call_bind {program : InPlace WorldError α} {r : Except WorldError (α × World)}
    {f : α → Deed β} {g : α × World → Except Miss (β × World)}
    (hrun : program.run w = InPlace.ending w r)
    (hthen : ∀ a next, (f a).run next = InPlace.ending w (g (a, next))) :
    (call program >>= f).run w = InPlace.ending w (Attempt.change r >>= g) := by
  have hcall : (call program).run w = InPlace.ending w (Attempt.change r) := by
    rw [call, EStateM.run_adaptExcept, hrun]
    cases r <;> rfl
  rw [EStateM.run_bind, hcall]
  cases r with
  | error cause => rfl
  | ok done => exact hthen done.1 done.2

theorem run_call_bind_unit {program : InPlace WorldError Unit} {r : Except WorldError World}
    {f : Unit → Deed β} {g : World → Except Miss (β × World)}
    (hrun : program.run w = InPlace.ending w (r.map ((), ·)))
    (hthen : ∀ next, (f ()).run next = InPlace.ending w (g next)) :
    (call program >>= f).run w = InPlace.ending w (Attempt.change r >>= g) := by
  rw [run_call_bind (g := fun done => g done.2) hrun fun _ next => hthen next]
  cases r <;> rfl

theorem run_attempt {program : InPlace ε α} {r : Except ε (α × World)}
    (hrun : program.run w = InPlace.ending w r) :
    (attempt program).run w = .ok (r.map Prod.fst) (r.toOption.elim w Prod.snd) := by
  rw [EStateM.run, attempt, hrun]
  cases r <;> rfl

theorem run_create (description : Description) (name : Option String) (w : World) :
    (create description name).run w =
      InPlace.ending w (Attempt.create description name w) := by
  refine run_ask_bind fun blueprint => ?_
  exact run_call_bind (InPlace.run_create blueprint w) fun _ _ => rfl

theorem run_take (target : Target) (w : World) :
    (take target).run w = InPlace.ending w (Attempt.take target w) := by
  refine run_ask_bind fun o => ?_
  rw [EStateM.run_bind, EStateM.run_get]
  dsimp only
  cases o.owner with
  | agent => rfl
  | user => rfl
  | world =>
    cases w.containerOf? o.id with
    | some container => rfl
    | none => exact run_call_bind_unit (InPlace.run_setOwner o.id .agent w) fun _ => rfl

theorem run_give (target : Target) (recipient : Owner) (w : World) :
    (give target recipient).run w = InPlace.ending w (Attempt.give target recipient w) := by
  refine run_ask_bind fun o => ?_
  by_cases howner : o.owner ≠ .agent
  · rw [if_pos howner, if_pos howner]
    rfl
  · rw [if_neg howner, if_neg howner]
    exact run_call_bind_unit (InPlace.run_setOwner o.id recipient w) fun _ => rfl

theorem run_destroy (target : Target) (w : World) :
    (destroy target).run w = InPlace.ending w (Attempt.destroy target w) := by
  refine run_ask_bind fun o => ?_
  rw [EStateM.run_bind, run_attempt (InPlace.run_remove o.id w)]
  cases w.remove o.id with
  | ok removed => rfl
  | error failure => cases failure <;> rfl

theorem run_put (target container : Target) (w : World) :
    (put target container).run w = InPlace.ending w (Attempt.put target container w) := by
  refine run_ask_bind fun o => run_ask_bind fun into => ?_
  by_cases howner : o.owner = .user
  · rw [if_pos howner, if_pos howner]
    rfl
  · rw [if_neg howner, if_neg howner]
    exact run_call_bind_unit (InPlace.run_putInto o.id into.id w) fun _ => rfl

theorem run_retrieve (name : String) (w : World) :
    (retrieve name).run w = InPlace.ending w (Attempt.retrieve name w) := by
  refine run_ask_bind fun o => ?_
  rw [EStateM.run_bind, EStateM.run_get]
  dsimp only
  cases w.containerOf? o.id with
  | none => rfl
  | some container => exact run_call_bind (InPlace.run_takeOut o.id w) fun _ _ => rfl

theorem settle_of_run {deed : Deed StepOutcome} {attempt : Attempt}
    (hrun : deed.run w = InPlace.ending w attempt) : deed.settle w = attempt.settle w := by
  rw [settle, hrun]
  cases attempt <;> rfl

end Deed

namespace Action

def executeInPlace (lexicon : Lexicon) : Action → World → StepOutcome × World
  | create description name, w => (Deed.create description name).settle w
  | take target, w => (Deed.take target).settle w
  | give target recipient, w => (Deed.give target recipient).settle w
  | destroy target, w => (Deed.destroy target).settle w
  | put target container, w => (Deed.put target container).settle w
  | retrieveFromContainer name _, w => (Deed.retrieve name).settle w
  | conditionalExecution check negated command, w =>
    afterCheck (check.executeInPlace lexicon w) fun checked afterwards =>
      if checked.result.isTruthy = negated then
        (⟨checked.feedback ++ " So I did nothing.", .truth false⟩, afterwards)
      else
        let (done, last) := command.executeInPlace lexicon afterwards
        (⟨checked.feedback ++ " " ++ done.feedback, done.result⟩, last)
  | hypotheticalQuery check supposition, w =>
    afterCheck (check.executeInPlace lexicon w) fun checked afterwards =>
      let truth := checked.result.isTruthy
      let feedback :=
        "If " ++ supposition ++ ": that would be " ++ (if truth then "true" else "false")
          ++ " right now."
      (⟨feedback, .truth truth⟩, afterwards)
  | other, w => other.execute lexicon w

theorem executeInPlace_eq (a : Action) (lexicon : Lexicon) (w : World) :
    a.executeInPlace lexicon w = a.execute lexicon w := by
  induction a generalizing w with
  | create description name => exact Deed.settle_of_run (Deed.run_create description name w)
  | take target => exact Deed.settle_of_run (Deed.run_take target w)
  | give target recipient => exact Deed.settle_of_run (Deed.run_give target recipient w)
  | destroy target => exact Deed.settle_of_run (Deed.run_destroy target w)
  | put target container => exact Deed.settle_of_run (Deed.run_put target container w)
  | retrieveFromContainer name label => exact Deed.settle_of_run (Deed.run_retrieve name w)
  | conditionalExecution check negated command ihCheck ihCommand =>
    rw [executeInPlace, ihCheck]
    simp only [ihCommand]
    rfl
  | hypotheticalQuery check supposition ih =>
    rw [executeInPlace, ih]
    rfl
  | _ => rfl

end Action

end Apprentice
