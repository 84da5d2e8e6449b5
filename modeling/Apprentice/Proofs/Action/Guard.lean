import Apprentice.Proofs.Description.Candidate
import Apprentice.Goal.Tick
import Apprentice.Proofs.Utterance.Shapes

/-!
# What the guard lets pass

An action is taken for one that leaves the world alone by its kind. That is right for all kinds but
one: a hypothetical question is carried out by carrying out what is supposed, whatever it is, so it
changes the world exactly as that does. Suppositions can be nested; what counts is the action at
their core. Nothing that is said leads to a supposition that changes the world.
-/

namespace Apprentice

variable {lexicon : Lexicon} {w : World} {a : Action}

namespace Action

/-- The action at the core of suppositions. -/
def core : Action → Action
  | hypotheticalQuery check _ => check.core
  | a => a

theorem core_eq_self (hkind : a.kind ≠ .hypotheticalQuery) : a.core = a := by
  cases a with
  | hypotheticalQuery check supposition => exact absurd rfl hkind
  | _ => rfl

theorem core_kind (a : Action) : a.core.kind ≠ .hypotheticalQuery := by
  induction a with
  | hypotheticalQuery check supposition ih => exact ih
  | _ => exact ActionKind.noConfusion

theorem core_withCurrentMeanings (lexicon : Lexicon) (a : Action) :
    (a.withCurrentMeanings lexicon).core.mutates = a.core.mutates := by
  cases a <;> rfl

/-- A supposition that is put to the test is carried out. -/
theorem execute_hypotheticalQuery (check : Action) (supposition : String) (lexicon : Lexicon)
    (w : World) : ((hypotheticalQuery check supposition).execute lexicon w).2 =
      (check.execute lexicon w).2 := by
  change (afterCheck (check.execute lexicon w) _).2 = _
  rw [afterCheck]
  split <;> rfl

theorem execute_core (a : Action) (lexicon : Lexicon) (w : World) :
    (a.execute lexicon w).2 = (a.core.execute lexicon w).2 := by
  induction a with
  | hypotheticalQuery check supposition ih =>
      rw [execute_hypotheticalQuery, ih]
      rfl
  | _ => rfl

/-- The guard is right about all kinds but one. -/
theorem execute_of_kind (hkind : a.kind ≠ .hypotheticalQuery) (hguard : a.mutates = false)
    (lexicon : Lexicon) (w : World) : (a.execute lexicon w).2 = w := by
  cases a with
  | hypotheticalQuery check supposition => exact absurd rfl hkind
  | create | take | give | destroy | put | retrieveFromContainer | conditionalExecution =>
      cases hguard
  | _ => rfl

theorem execute_of_core (hcore : a.core.mutates = false) (lexicon : Lexicon) (w : World) :
    (a.execute lexicon w).2 = w := by
  rw [execute_core]
  exact execute_of_kind a.core_kind hcore lexicon w

end Action

theorem Progress.checkCondition_of_core (hcore : a.core.mutates = false) (p : Progress)
    (lexicon : Lexicon) : (p.checkCondition a lexicon).2 = p := by
  rw [checkCondition]
  split
  next => rfl
  next =>
    dsimp only
    rw [Action.execute_of_core hcore]

/-! ### Goals that are stated in words -/

namespace Action

variable {m : Material}

theorem IsCheck.core_mutates (ha : a.IsCheck m) : a.core.mutates = false := by
  cases ha <;> rfl

theorem IsSimple.core_mutates (ha : a.IsSimple m) (hguard : a.mutates = false) :
    a.core.mutates = false := by
  cases ha with
  | hypotheticalQuery hcheck => exact hcheck.core_mutates
  | check ha => exact ha.core_mutates
  | _ => exact hguard

theorem IsCondition.core_mutates {kind : GoalKind} (ha : a.IsCondition m kind) :
    a.core.mutates = false := by
  cases ha with
  | possession | existence => rfl
  | state ha hkind =>
      refine ha.core_mutates ?_
      rw [mutates]
      revert hkind
      cases a.kind <;> decide

end Action

namespace Utterance

theorem readGoal_core {text : String} {lexicon : Lexicon} {world : World} {request : GoalRequest}
    (hread : readGoal text lexicon world = .ok (.goal request)) :
    request.condition.core.mutates = false :=
  (readGoal_isCondition (fun t _ => t.gives_any) hread).core_mutates

end Utterance

/-- Whether a goal that was stated in words is achieved can be found out without changing anything,
whatever its words mean by then. -/
theorem Progress.checkCondition_of_readGoal {text : String} {world : World}
    {request : Utterance.GoalRequest}
    (hread : Utterance.readGoal text lexicon world = .ok (.goal request)) (later : Lexicon)
    (p : Progress) :
    (p.checkCondition (request.condition.withCurrentMeanings later) later).2 = p := by
  refine p.checkCondition_of_core ?_ later
  rw [Action.core_withCurrentMeanings]
  exact Utterance.readGoal_core hread

/-! ### The guard -/

/-- What the guard lets pass leaves the world as it was if there is nothing at its core that changes
the world, also as the condition of a goal. Otherwise it is a hypothetical question, and it changes
the world exactly as its core does. -/
theorem Action.execute_guarded (hguard : a.mutates = false) (lexicon : Lexicon) :
    (a.core.mutates = false → (∀ w, (a.execute lexicon w).2 = w) ∧
      ∀ p : Progress, (p.checkCondition (a.withCurrentMeanings lexicon) lexicon).2 = p) ∧
    (a.core.mutates = true → a.kind = .hypotheticalQuery ∧
      (∀ w, (a.execute lexicon w).2 = (a.core.execute lexicon w).2) ∧
      ∀ p : Progress, (p.checkCondition a lexicon).2 =
        { p with world := (a.core.execute lexicon p.world).2 }) := by
  constructor
  · intro hcore
    refine ⟨execute_of_core hcore lexicon, fun p => p.checkCondition_of_core ?_ lexicon⟩
    rw [core_withCurrentMeanings]
    exact hcore
  · intro hcore
    refine ⟨?_, fun w => a.execute_core lexicon w, fun p => ?_⟩
    · by_contra hkind
      rw [core_eq_self hkind, hguard] at hcore
      cases hcore
    · rw [Progress.checkCondition, hguard, if_neg Bool.false_ne_true, ← a.execute_core]

/-- Supposing that something is made makes it; supposing that something exists does not. -/
theorem Action.execute_guarded_supposed :
    let made := hypotheticalQuery (create .corner none) "so"
    let found := hypotheticalQuery (verifyExistence .corner) "so"
    made.mutates = false ∧ found.mutates = false ∧
      (made.execute .empty (World.new 2 1)).2 =
        ((create .corner none).execute .empty (World.new 2 1)).2 ∧
      (made.execute .empty (World.new 2 1)).2 ≠ World.new 2 1 ∧
      (found.execute .empty (World.new 2 1)).2 = World.new 2 1 := by
  have hmade :=
    (execute_guarded (a := hypotheticalQuery (create .corner none) "so") rfl .empty).2 rfl
  have hfound :=
    (execute_guarded (a := hypotheticalQuery (verifyExistence .corner) "so") rfl .empty).1 rfl
  refine ⟨rfl, rfl, hmade.2.1 _, ?_, hfound.1 _⟩
  rw [hmade.2.1]
  decide +kernel

/-- A supposition that something is made, where it can be made and there is room for it, passes the
guard and makes it. -/
theorem Action.supposed_create (hsound : w.Sound) {d : Description} {blueprint : Blueprint}
    {cell : Cell} (hsynthesize : d.synthesize none = .ok blueprint) (hname : blueprint.name = none)
    (hfree : w.freeCell? = some cell) (supposition : String) (lexicon : Lexicon) :
    (hypotheticalQuery (create d none) supposition).mutates = false ∧
      ((hypotheticalQuery (create d none) supposition).execute lexicon w).2.find? w.nextId =
        some (w.newObject blueprint cell) := by
  refine ⟨rfl, ?_⟩
  rw [execute_hypotheticalQuery]
  exact (created_of_free hsound hsynthesize hname hfree lexicon).2

end Apprentice
