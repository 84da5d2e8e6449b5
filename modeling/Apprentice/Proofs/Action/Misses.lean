import Apprentice.Proofs.Action.InPlace
import Apprentice.Proofs.Action.Ownership

/-!
# Misses

An action that misses changes nothing. A change that misses has called no operation, or one that
fails, and an operation that fails leaves the world as it was. A conditional misses if its check
does, or if its command does after the check; so the check must not change anything, and neither
must what is supposed in a hypothetical question. With such checks an action calls at most one
operation that succeeds, whatever the conditionals around it, and the log grows by its event or not
at all.
-/

namespace Apprentice

variable {lexicon : Lexicon} {w next : World} {a : Action}

/-- No check in the action has anything at its core that changes the world. -/
def Action.ChecksLook : Action → Prop
  | conditionalExecution check _ command => check.core.mutates = false ∧ command.ChecksLook
  | hypotheticalQuery check _ => check.core.mutates = false
  | _ => True

/-! ### Misses -/

theorem Attempt.settle_of_miss {attempt : Attempt} {cause : Miss}
    (hfinds : ∀ outcome next, attempt = .ok (outcome, next) → outcome.result ≠ .miss cause)
    (hmiss : (attempt.settle w).1.result = .miss cause) : (attempt.settle w).2 = w := by
  cases attempt with
  | error cause => rfl
  | ok done => exact absurd hmiss (hfinds done.1 done.2 rfl)

theorem Action.execute_of_miss (hchecks : a.ChecksLook) {cause : Miss}
    (hmiss : (a.execute lexicon w).1.result = .miss cause) : (a.execute lexicon w).2 = w := by
  induction a generalizing w with
  | create description name =>
    refine Attempt.settle_of_miss (fun outcome next hok => ?_) hmiss
    obtain ⟨blueprint, id, -, hresult⟩ := Attempt.create_eq_ok hok
    rw [hresult]
    exact nofun
  | take target =>
    refine Attempt.settle_of_miss (fun outcome next hok => ?_) hmiss
    obtain ⟨o, -, hresult, -⟩ := Attempt.take_eq_ok hok
    rw [hresult]
    exact nofun
  | give target recipient =>
    refine Attempt.settle_of_miss (fun outcome next hok => ?_) hmiss
    obtain ⟨o, -, -, -, hresult⟩ := Attempt.give_eq_ok hok
    rw [hresult]
    exact nofun
  | destroy target =>
    refine Attempt.settle_of_miss (fun outcome next hok => ?_) hmiss
    obtain ⟨o, -, ⟨hresult, -⟩ | ⟨hresult, -⟩⟩ := Attempt.destroy_eq_ok hok
    · rw [hresult]
      exact nofun
    · rw [hresult]
      exact nofun
  | put target container =>
    refine Attempt.settle_of_miss (fun outcome next hok => ?_) hmiss
    obtain ⟨o, into, -, -, -, hresult⟩ := Attempt.put_eq_ok hok
    rw [hresult]
    exact nofun
  | retrieveFromContainer name label =>
    refine Attempt.settle_of_miss (fun outcome next hok => ?_) hmiss
    obtain ⟨o, -, hresult, -⟩ := Attempt.retrieve_eq_ok hok
    rw [hresult]
    exact nofun
  | hypotheticalQuery check supposition ih =>
    rw [execute_hypotheticalQuery]
    exact execute_of_core hchecks lexicon w
  | conditionalExecution check negated command ihCheck ihCommand =>
    have hsame : (check.execute lexicon w).2 = w := execute_of_core hchecks.1 lexicon w
    rcases execute_conditional check command negated lexicon w with hstopped | ⟨hdone, hresult⟩
    · exact hstopped.trans hsame
    · rw [hsame] at hdone hresult
      rw [hdone]
      exact ihCommand hchecks.2 (hresult.symm.trans hmiss)
  | _ => rfl

/-! ### One event or none -/

def World.AddsAtMostOne (w next : World) : Prop :=
  next = w ∨ ∃ e, next.events = w.events ++ [e]

theorem World.Operation.addsAtMostOne (op : Operation) {id : ObjectId}
    (hok : op.result w = .ok next) (habout : op.subject? w = some id) : w.AddsAtMostOne next := by
  by_cases hkeeps : op.KeepsOwner w
  · rw [result_of_keepsOwner hkeeps] at hok
    exact .inl (Except.ok.inj hok).symm
  · obtain ⟨added, hevents, hobjects⟩ := events_of_result hkeeps hok
    rw [habout, Option.toList_some, List.map_eq_singleton_iff] at hobjects
    obtain ⟨e, rfl, -⟩ := hobjects
    exact .inr ⟨e, hevents⟩

namespace Action

theorem Does.eq_of_core (hdoes : Does lexicon a w next) (hcore : a.core.mutates = false) :
    next = w := by
  induction hdoes with
  | nothing => rfl
  | supposes _ ih => exact ih hcore
  | _ => cases hcore

theorem Does.addsAtMostOne (hdoes : Does lexicon a w next) (hchecks : a.ChecksLook) :
    w.AddsAtMostOne next := by
  induction hdoes with
  | nothing => exact .inl rfl
  | @creates _ _ blueprint _ _ _ hok =>
    exact World.Operation.addsAtMostOne (.create blueprint)
      (congrArg (fun r => (r.map Prod.snd).mapError WorldFailure.refused) hok) rfl
  | takes _ _ _ hok =>
    exact World.Operation.addsAtMostOne (.setOwner _ _)
      (congrArg (Except.mapError WorldFailure.refused) hok) rfl
  | gives _ _ hok =>
    exact World.Operation.addsAtMostOne (.setOwner _ _)
      (congrArg (Except.mapError WorldFailure.refused) hok) rfl
  | destroys hok =>
    exact World.Operation.addsAtMostOne (.remove _) (congrArg (·.map Prod.snd) hok) rfl
  | puts hok =>
    exact World.Operation.addsAtMostOne (.putInto _ _)
      (congrArg (Except.mapError WorldFailure.refused) hok) rfl
  | retrieves hok =>
    exact World.Operation.addsAtMostOne (.takeOut _)
      (congrArg (fun r => (r.map Prod.snd).mapError WorldFailure.refused) hok) rfl
  | supposes hcheck _ => exact .inl (hcheck.eq_of_core hchecks)
  | commands hcheck hcommand _ ih =>
    rw [execute_of_core hchecks.1] at ih
    exact ih hchecks.2

/-- An action whose checks only look leaves the world as it is if it misses, and otherwise adds at
most one event to the log; so it does when it is carried out in place. -/
theorem execute_misses (hchecks : a.ChecksLook) (lexicon : Lexicon) (w : World) :
    a.executeInPlace lexicon w = a.execute lexicon w ∧
    (∀ cause, (a.execute lexicon w).1.result = .miss cause → (a.execute lexicon w).2 = w) ∧
    ∃ added, (a.execute lexicon w).2.events = w.events ++ added ∧ added.length ≤ 1 ∧
      (added = [] → (a.execute lexicon w).2 = w) := by
  refine ⟨executeInPlace_eq a lexicon w, fun cause => execute_of_miss hchecks, ?_⟩
  rcases (does_execute a lexicon w).addsAtMostOne hchecks with hsame | ⟨e, hevents⟩
  · exact ⟨[], by rw [hsame, List.append_nil], Nat.zero_le 1, fun _ => hsame⟩
  · exact ⟨[e], hevents, Nat.le_refl 1, nofun⟩

/-- A second thing is asked for where the first one takes the only cell. The check finds the first,
so the second is tried, and there is no room for it. -/
theorem execute_misses_full :
    let another := conditionalExecution (verifyExistence .corner) false (create .corner none)
    let w := ((create .corner none).execute .empty (World.new 1 1)).2
    another.ChecksLook ∧ w.events.length = 1 ∧
      (another.execute .empty w).1.result = .miss (.refused (.world (.full 1 1))) ∧
      (another.execute .empty w).2 = w := by
  intro another w
  have hchecks : another.ChecksLook := ⟨rfl, trivial⟩
  have hmiss : (another.execute .empty w).1.result = .miss (.refused (.world (.full 1 1))) := by
    decide +kernel
  exact ⟨hchecks, by decide +kernel, hmiss, (execute_misses hchecks .empty w).2.1 _ hmiss⟩

end Action

end Apprentice
