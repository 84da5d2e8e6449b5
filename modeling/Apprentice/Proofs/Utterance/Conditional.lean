import Apprentice.Proofs.Action.Guard

/-!
# Conditionals

A conditional holds a check and a command. The check is one of five questions about the state of the
world, whatever words it is made of, and the command is no conditional and no hypothetical question,
so nothing is nested. Therefore the kind of a command that was said tells whether it can change the
world, and a conditional changes nothing unless its check selects the command.
-/

namespace Apprentice

variable {m : Material} {a check command : Action} {negated : Bool}

namespace Action

def checkKinds : List ActionKind :=
  [.verifyPossession, .verifyExistence, .evaluateRelation, .verifyProperty, .query]

theorem IsCheck.kind_mem (ha : a.IsCheck m) : a.kind ∈ checkKinds := by
  cases ha <;> simp [checkKinds, kind]

theorem IsSimple.kind_ne_conditional (ha : a.IsSimple m) : a.kind ≠ .conditionalExecution := by
  cases ha with
  | check ha => cases ha <;> exact ActionKind.noConfusion
  | _ => exact ActionKind.noConfusion

theorem IsCondition.kind_mem {kind : GoalKind} (ha : a.IsCondition m kind) :
    a.kind ∈ checkKinds := by
  cases ha with
  | possession hd => exact (IsCheck.possession hd).kind_mem
  | existence hd => exact (IsCheck.existence hd).kind_mem
  | state ha hkind =>
      revert hkind
      cases a.kind <;> decide

theorem IsCommand.of_conditional (ha : (conditionalExecution check negated command).IsCommand m) :
    check.IsCheck m ∧ command.IsSimple m ∧ command.kind ≠ .hypotheticalQuery := by
  cases ha with
  | simple ha => exact absurd rfl ha.kind_ne_conditional
  | conditional hcheck hcommand hkind => exact ⟨hcheck, hcommand, hkind⟩

theorem IsCommand.of_hypothetical {supposition : String}
    (ha : (hypotheticalQuery check supposition).IsCommand m) : check.IsCheck m := by
  cases ha with
  | simple ha =>
      cases ha with
      | check ha => cases ha
      | hypotheticalQuery hcheck => exact hcheck

/-- A command has nothing at its core that changes the world, if its kind says so. -/
theorem IsCommand.core_mutates (ha : a.IsCommand m) (hguard : a.mutates = false) :
    a.core.mutates = false := by
  cases ha with
  | simple ha => exact ha.core_mutates hguard
  | conditional => cases hguard

/-- Whether a conditional stops at its check: the check does not select the command, or it
misses. -/
def Stops (checked : StepResult) (negated : Bool) : Prop :=
  checked.isTruthy = negated ∨ ∃ cause, checked = .miss cause

theorem execute_conditional_of_stops (hcheck : check.core.mutates = false) {lexicon : Lexicon}
    {w : World} (hstops : Stops (check.execute lexicon w).1.result negated) :
    ((conditionalExecution check negated command).execute lexicon w).2 = w := by
  have hworld : (check.execute lexicon w).2 = w := execute_of_core hcheck lexicon w
  change (afterCheck (check.execute lexicon w) _).2 = w
  rw [afterCheck]
  split
  next => exact hworld
  next => exact hworld
  next hmiss _ =>
    rcases hstops with htruth | ⟨cause, hcause⟩
    · rw [if_pos htruth]
      exact hworld
    · exact absurd hcause (hmiss cause)

end Action

namespace Utterance

theorem read_isCommand {text : String} {lexicon : Lexicon} {world : World}
    (hread : read text lexicon world = .ok (.act a)) :
    a.IsCommand .any ∨ a = .notUnderstood (Text.trimmed text) :=
  isCommand_of_read (fun t _ => t.gives_any) hread

/-- Conditionals are flat and their checks only look at the world, whatever has been taught: the
check of a conditional, what is supposed in a hypothetical question and the condition of a goal are
all one of five questions, and the command of a conditional is none of the two. So what was said
leaves every world as it is, with the lexicon of any time, if its kind does not change the world, or
if it is a conditional that stops at its check. -/
theorem conditionals_flat (text : String) (lexicon : Lexicon) (world : World) :
    (∀ a, read text lexicon world = .ok (.act a) →
      (∀ check negated command, a = .conditionalExecution check negated command →
        check.kind ∈ Action.checkKinds ∧
        command.kind ≠ .conditionalExecution ∧ command.kind ≠ .hypotheticalQuery ∧
        ∀ later w, Action.Stops (check.execute later w).1.result negated →
          (a.execute later w).2 = w) ∧
      (∀ check supposition, a = .hypotheticalQuery check supposition →
        check.kind ∈ Action.checkKinds) ∧
      (a.mutates = false → ∀ later w, (a.execute later w).2 = w)) ∧
    ∀ request, readGoal text lexicon world = .ok (.goal request) →
      request.condition.kind ∈ Action.checkKinds := by
  constructor
  · intro a hread
    have hcommand := read_isCommand hread
    refine ⟨?_, ?_, ?_⟩
    · rintro check negated command rfl
      rcases hcommand with hcommand | hnothing
      · obtain ⟨hcheck, hsimple, hkind⟩ := hcommand.of_conditional
        exact ⟨hcheck.kind_mem, hsimple.kind_ne_conditional, hkind,
          fun later w hstops => Action.execute_conditional_of_stops hcheck.core_mutates hstops⟩
      · cases hnothing
    · rintro check supposition rfl
      rcases hcommand with hcommand | hnothing
      · exact hcommand.of_hypothetical.kind_mem
      · cases hnothing
    · intro hguard later w
      refine Action.execute_of_core ?_ later w
      rcases hcommand with hcommand | rfl
      · exact hcommand.core_mutates hguard
      · rfl
  · intro request hread
    exact (readGoal_isCondition (fun t _ => t.gives_any) hread).kind_mem

/-- With nothing red there, nothing is made if there is something red. -/
theorem conditionals_flat_red :
    let isRed : Predicate :=
      ⟨.unary, .binary .eq (.attr .obj .color) (.literal (.str "red")), "obj.color == 'red'"⟩
    let lexicon : Lexicon := ⟨[⟨"if", .conditional, "if", .clause .if⟩,
      ⟨"make", .action, "make", .action .create⟩,
      ⟨"red", .property, "obj.color == 'red'", .predicate isRed⟩,
      ⟨"then", .conditional, "then", .clause .then⟩,
      ⟨"what", .inquiry, "what", .inquiry .what⟩], by decide⟩
    let red := Description.conjunction [⟨"red", false, isRed⟩]
    let command := Action.conditionalExecution (.query red none) false (.create red none)
    let question := Action.hypotheticalQuery (.query red none) "red"
    let w := World.new 2 1
    read "if red then make red" lexicon w = .ok (.act command) ∧ command.mutates = true ∧
      (command.execute lexicon w).2 = w ∧
      read "what if red" lexicon w = .ok (.act question) ∧
      (question.execute lexicon w).2 = w ∧
      ∃ request, readGoal "red" lexicon w = .ok (.goal request) ∧
        request.condition.kind ∈ Action.checkKinds := by
  intro isRed lexicon red command question w
  have hcommand : read "if red then make red" lexicon w = .ok (.act command) := by
    rw [read, tokenize, show splitWords "if red then make red" = [⟨"if", ⟨0, 2⟩⟩, ⟨"red", ⟨3, 6⟩⟩,
      ⟨"then", ⟨7, 11⟩⟩, ⟨"make", ⟨12, 16⟩⟩, ⟨"red", ⟨17, 20⟩⟩] by decide +kernel]
    rfl
  have hquestion : read "what if red" lexicon w = .ok (.act question) := by
    rw [read, tokenize, show splitWords "what if red" =
      [⟨"what", ⟨0, 4⟩⟩, ⟨"if", ⟨5, 7⟩⟩, ⟨"red", ⟨8, 11⟩⟩] by decide +kernel]
    rfl
  have hgoal : readGoal "red" lexicon w =
      .ok (.goal ⟨.verifyState, "red", .query red none⟩) := by
    rw [readGoal, tokenize, show splitWords "red" = [⟨"red", ⟨0, 3⟩⟩] by decide +kernel]
    rfl
  obtain ⟨hconditional, -, -⟩ := (conditionals_flat _ lexicon w).1 command hcommand
  obtain ⟨-, -, hworld⟩ := (conditionals_flat _ lexicon w).1 question hquestion
  obtain ⟨-, -, -, hstops⟩ := hconditional _ _ _ rfl
  exact ⟨hcommand, rfl, hstops lexicon w (.inl rfl), hquestion, hworld rfl lexicon w, _, hgoal,
    (conditionals_flat _ lexicon w).2 _ hgoal⟩

end Utterance

end Apprentice
