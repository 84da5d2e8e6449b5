import Apprentice.Proofs.Action.Guard
import Apprentice.Proofs.Description.Reads
import Apprentice.Proofs.World.Names
import Apprentice.Proofs.World.Ownership

/-!
# Owners through actions

What carrying out an action can do to the world, said once: it is one operation of the world, or
none, or what the parts of a conditional do one after the other. Each kind of action has its
operation, and only two kinds hand an object over. To take something passes it from nobody to the
agent, if it lies in the open, and to give something passes it from the agent to the recipient. What
the user has keeps its owner, because neither of the two starts there.
-/

namespace Apprentice

variable {lexicon : Lexicon} {w next : World} {action : Action} {id : ObjectId} {o p : Object}
  {before after : Owner}

/-! ### Attempts

What has held of the world and what comes of it when an attempt succeeds. It names an object then,
unless it is aborted. -/

namespace Attempt

variable {outcome : StepOutcome} {target : Target}

theorem change_eq_ok {α : Type} {result : Except WorldError α} {a : α}
    (hok : change result = .ok a) : result = .ok a :=
  mapError_eq_ok hok

theorem create_eq_ok {description : Description} {name : Option String}
    (hok : create description name w = .ok (outcome, next)) :
    ∃ blueprint id, w.create blueprint = .ok (id, next) ∧ outcome.result = .created id := by
  obtain ⟨blueprint, -, hok⟩ := bind_eq_ok hok
  obtain ⟨⟨id, made⟩, hmade, hreturn⟩ := bind_eq_ok hok
  cases hreturn
  exact ⟨blueprint, id, change_eq_ok hmade, rfl⟩

theorem take_eq_ok (hok : take target w = .ok (outcome, next)) :
    ∃ o, target.resolve w = .ok o ∧ outcome.result = .object o.id ∧
      (next = w ∨ o.owner = .world ∧ w.containerOf? o.id = none ∧
        w.setOwner o.id .agent = .ok next) := by
  obtain ⟨o, hresolve, hok⟩ := bind_eq_ok hok
  refine ⟨o, hresolve, ?_⟩
  split at hok
  next =>
    cases hok
    exact ⟨rfl, .inl rfl⟩
  next => cases hok
  next => cases hok
  next howner hopen =>
    obtain ⟨taken, htaken, hreturn⟩ := bind_eq_ok hok
    cases hreturn
    exact ⟨rfl, .inr ⟨howner, hopen, change_eq_ok htaken⟩⟩

theorem give_eq_ok {recipient : Owner} (hok : give target recipient w = .ok (outcome, next)) :
    ∃ o, target.resolve w = .ok o ∧ o.owner = .agent ∧
      w.setOwner o.id recipient = .ok next ∧ outcome.result = .object o.id := by
  obtain ⟨o, hresolve, hok⟩ := bind_eq_ok hok
  split at hok
  next => cases hok
  next howner =>
    obtain ⟨given, hgiven, hreturn⟩ := bind_eq_ok hok
    cases hreturn
    exact ⟨o, hresolve, Decidable.not_not.mp howner, change_eq_ok hgiven, rfl⟩

theorem destroy_eq_ok (hok : destroy target w = .ok (outcome, next)) :
    ∃ o, target.resolve w = .ok o ∧
      ((outcome.result = .object o.id ∧ ∃ removed, w.remove o.id = .ok (removed, next)) ∨
        (outcome.result = .aborted ∧ w.remove o.id = .error .aborted ∧ next = w)) := by
  obtain ⟨o, hresolve, hok⟩ := bind_eq_ok hok
  refine ⟨o, hresolve, ?_⟩
  split at hok
  next removed left hleft =>
    cases hok
    exact .inl ⟨rfl, removed, hleft⟩
  next => cases hok
  next haborted =>
    cases hok
    exact .inr ⟨rfl, haborted, rfl⟩

theorem put_eq_ok {container : Target} (hok : put target container w = .ok (outcome, next)) :
    ∃ o into, target.resolve w = .ok o ∧ container.resolve w = .ok into ∧
      w.putInto o.id into.id = .ok next ∧ outcome.result = .object o.id := by
  obtain ⟨o, hresolve, hok⟩ := bind_eq_ok hok
  obtain ⟨into, hinto, hok⟩ := bind_eq_ok hok
  split at hok
  next => cases hok
  next =>
    obtain ⟨moved, hmoved, hreturn⟩ := bind_eq_ok hok
    cases hreturn
    exact ⟨o, into, hresolve, hinto, change_eq_ok hmoved, rfl⟩

theorem retrieve_eq_ok {name : String} (hok : retrieve name w = .ok (outcome, next)) :
    ∃ o, resolveNamed name w = .ok o ∧ outcome.result = .object o.id ∧
      (next = w ∨ ∃ container, w.takeOut o.id = .ok (container, next)) := by
  obtain ⟨o, hresolve, hok⟩ := bind_eq_ok hok
  refine ⟨o, hresolve, ?_⟩
  split at hok
  next =>
    cases hok
    exact ⟨rfl, .inl rfl⟩
  next =>
    obtain ⟨⟨container, lifted⟩, hlifted, hreturn⟩ := bind_eq_ok hok
    cases hreturn
    exact ⟨rfl, .inr ⟨container, change_eq_ok hlifted⟩⟩

end Attempt

theorem Target.mem_of_resolve {target : Target} (hresolve : target.resolve w = .ok o) :
    o ∈ w.objects := by
  cases target with
  | named name =>
      rw [resolve, resolveNamed] at hresolve
      split at hresolve
      next hnamed =>
        cases hresolve
        exact World.mem_of_named? hnamed
      next => cases hresolve
  | matching description =>
      rw [resolve] at hresolve
      split at hresolve
      next hfound =>
        cases hresolve
        have hmem : o ∈ w.filter description.fits := by
          rw [hfound]
          exact List.mem_singleton_self o
        exact (List.mem_filter.mp hmem).1
      next => cases hresolve
      next => cases hresolve

namespace Action

/-- What carrying out an action does to the world. -/
inductive Does (lexicon : Lexicon) : Action → World → World → Prop where
  | nothing {action : Action} {w : World} : Does lexicon action w w
  | creates {description : Description} {name : Option String} {blueprint : Blueprint}
      {id : ObjectId} {w next : World} (hok : w.create blueprint = .ok (id, next)) :
      Does lexicon (.create description name) w next
  | takes {target : Target} {o : Object} {w next : World} (hresolve : target.resolve w = .ok o)
      (howner : o.owner = .world) (hopen : w.containerOf? o.id = none)
      (hok : w.setOwner o.id .agent = .ok next) : Does lexicon (.take target) w next
  | gives {target : Target} {recipient : Owner} {o : Object} {w next : World}
      (hresolve : target.resolve w = .ok o) (howner : o.owner = .agent)
      (hok : w.setOwner o.id recipient = .ok next) : Does lexicon (.give target recipient) w next
  | destroys {target : Target} {id : ObjectId} {o : Object} {w next : World}
      (hok : w.remove id = .ok (o, next)) : Does lexicon (.destroy target) w next
  | puts {target into : Target} {id container : ObjectId} {w next : World}
      (hok : w.putInto id container = .ok next) : Does lexicon (.put target into) w next
  | retrieves {name label : String} {id container : ObjectId} {w next : World}
      (hok : w.takeOut id = .ok (container, next)) :
      Does lexicon (.retrieveFromContainer name label) w next
  | supposes {check : Action} {supposition : String} {w next : World}
      (hcheck : Does lexicon check w next) :
      Does lexicon (.hypotheticalQuery check supposition) w next
  /-- A conditional whose command is carried out; otherwise the command does nothing. -/
  | commands {check command : Action} {negated : Bool} {w next : World}
      (hcheck : Does lexicon check w (check.execute lexicon w).2)
      (hcommand : Does lexicon command (check.execute lexicon w).2 next) :
      Does lexicon (.conditionalExecution check negated command) w next

theorem Does.of_attempt {attempt : Attempt}
    (hdone : ∀ outcome next, attempt = .ok (outcome, next) → Does lexicon action w next) :
    Does lexicon action w (attempt.settle w).2 := by
  cases attempt with
  | error cause => exact .nothing
  | ok done => exact hdone done.1 done.2 rfl

theorem does_create (description : Description) (name : Option String) (lexicon : Lexicon)
    (w : World) : Does lexicon (.create description name) w
      ((Attempt.create description name w).settle w).2 := by
  refine .of_attempt fun outcome next hok => ?_
  obtain ⟨blueprint, id, hcreate, -⟩ := Attempt.create_eq_ok hok
  exact .creates hcreate

theorem does_take (target : Target) (lexicon : Lexicon) (w : World) :
    Does lexicon (.take target) w ((Attempt.take target w).settle w).2 := by
  refine .of_attempt fun outcome next hok => ?_
  obtain ⟨o, hresolve, -, rfl | ⟨howner, hopen, hset⟩⟩ := Attempt.take_eq_ok hok
  · exact .nothing
  · exact .takes hresolve howner hopen hset

theorem does_give (target : Target) (recipient : Owner) (lexicon : Lexicon) (w : World) :
    Does lexicon (.give target recipient) w ((Attempt.give target recipient w).settle w).2 := by
  refine .of_attempt fun outcome next hok => ?_
  obtain ⟨o, hresolve, howner, hset, -⟩ := Attempt.give_eq_ok hok
  exact .gives hresolve howner hset

theorem does_destroy (target : Target) (lexicon : Lexicon) (w : World) :
    Does lexicon (.destroy target) w ((Attempt.destroy target w).settle w).2 := by
  refine .of_attempt fun outcome next hok => ?_
  obtain ⟨o, -, ⟨-, removed, hremove⟩ | ⟨-, -, rfl⟩⟩ := Attempt.destroy_eq_ok hok
  · exact .destroys hremove
  · exact .nothing

theorem does_put (target into : Target) (lexicon : Lexicon) (w : World) :
    Does lexicon (.put target into) w ((Attempt.put target into w).settle w).2 := by
  refine .of_attempt fun outcome next hok => ?_
  obtain ⟨o, container, -, -, hput, -⟩ := Attempt.put_eq_ok hok
  exact .puts hput

theorem does_retrieve (name label : String) (lexicon : Lexicon) (w : World) :
    Does lexicon (.retrieveFromContainer name label) w ((Attempt.retrieve name w).settle w).2 := by
  refine .of_attempt fun outcome next hok => ?_
  obtain ⟨o, -, -, rfl | ⟨container, htake⟩⟩ := Attempt.retrieve_eq_ok hok
  · exact .nothing
  · exact .retrieves htake

theorem execute_conditional (check command : Action) (negated : Bool) (lexicon : Lexicon)
    (w : World) :
    let checked := (check.execute lexicon w).2
    let done := (conditionalExecution check negated command).execute lexicon w
    done.2 = checked ∨ done.2 = (command.execute lexicon checked).2 ∧
      done.1.result = (command.execute lexicon checked).1.result := by
  change (afterCheck (check.execute lexicon w) _).2 = _ ∨
    (afterCheck (check.execute lexicon w) _).2 = _ ∧
      (afterCheck (check.execute lexicon w) _).1.result = _
  rw [afterCheck]
  split
  next => exact .inl rfl
  next => exact .inl rfl
  next =>
    split
    next => exact .inl rfl
    next => exact .inr ⟨rfl, rfl⟩

theorem does_execute (action : Action) (lexicon : Lexicon) (w : World) :
    Does lexicon action w (action.execute lexicon w).2 := by
  induction action generalizing w with
  | create description name => exact does_create description name lexicon w
  | take target => exact does_take target lexicon w
  | give target recipient => exact does_give target recipient lexicon w
  | destroy target => exact does_destroy target lexicon w
  | put target into => exact does_put target into lexicon w
  | retrieveFromContainer name label => exact does_retrieve name label lexicon w
  | hypotheticalQuery check supposition ih =>
      rw [execute_hypotheticalQuery]
      exact .supposes (ih w)
  | conditionalExecution check negated command ihCheck ihCommand =>
      rcases execute_conditional check command negated lexicon w with hstopped | ⟨hdone, -⟩
      · rw [hstopped]
        exact .commands (ihCheck w) .nothing
      · rw [hdone]
        exact .commands (ihCheck w) (ihCommand _)
  | _ => exact .nothing

/-! ### Owners -/

theorem Does.succeeds (hdoes : Does lexicon action w next) (hnumbered : w.Numbered) :
    w.Succeeds next := by
  induction hdoes with
  | nothing => exact World.succeeds_refl hnumbered
  | creates hok => exact (World.Step.create hok).succeeds hnumbered
  | takes _ _ _ hok => exact (World.Step.setOwner hok).succeeds hnumbered
  | gives _ _ hok => exact (World.Step.setOwner hok).succeeds hnumbered
  | destroys hok => exact (World.Step.remove hok).succeeds hnumbered
  | puts hok => exact (World.Step.putInto hok).succeeds hnumbered
  | retrieves hok => exact (World.Step.takeOut hok).succeeds hnumbered
  | supposes _ ih => exact ih hnumbered
  | commands _ _ ihCheck ihCommand =>
      have hchecked := ihCheck hnumbered
      exact hchecked.trans (ihCommand hchecked.numbered)

/-- How the owner of an object can change while an action is carried out: not at all, or by taking
or giving that object, at the time when it is done. -/
inductive Hands (lexicon : Lexicon) : Action → World → ObjectId → Owner → Owner → Prop where
  | keeps {action : Action} {w : World} {id : ObjectId} {owner : Owner} :
      Hands lexicon action w id owner owner
  /-- What lies in the open and belongs to nobody is taken by the agent. -/
  | takes {target : Target} {w : World} {o : Object} (hresolve : target.resolve w = .ok o)
      (howner : o.owner = .world) (hopen : w.containerOf? o.id = none) :
      Hands lexicon (.take target) w o.id .world .agent
  /-- What the agent has is given to the recipient. -/
  | gives {target : Target} {recipient : Owner} {w : World} {o : Object}
      (hresolve : target.resolve w = .ok o) (howner : o.owner = .agent) :
      Hands lexicon (.give target recipient) w o.id .agent recipient
  | supposes {check : Action} {supposition : String} {w : World} {id : ObjectId}
      {before after : Owner} (hcheck : Hands lexicon check w id before after) :
      Hands lexicon (.hypotheticalQuery check supposition) w id before after
  | commands {check command : Action} {negated : Bool} {w : World} {id : ObjectId}
      {before between after : Owner} (hcheck : Hands lexicon check w id before between)
      (hcommand : Hands lexicon command (check.execute lexicon w).2 id between after) :
      Hands lexicon (.conditionalExecution check negated command) w id before after

theorem Hands.of_keepsOwners (hkeeps : w.KeepsOwners next) (hfind : w.find? id = some o)
    (hnext : next.find? id = some p) : Hands lexicon action w id o.owner p.owner := by
  rw [hkeeps hfind hnext]
  exact .keeps

theorem Hands.of_setOwner {q : Object} {owner : Owner} (hnumbered : w.Numbered)
    (hmem : q ∈ w.objects) (hok : w.setOwner q.id owner = .ok next)
    (hpasses : Hands lexicon action w q.id q.owner owner) (hfind : w.find? id = some o)
    (hnext : next.find? id = some p) : Hands lexicon action w id o.owner p.owner := by
  rw [World.owner_of_setOwner hok hfind hnext]
  by_cases hid : id = q.id
  · rw [if_pos hid]
    rw [hid, World.find?_of_mem hnumbered.nodup hmem] at hfind
    cases hfind
    exact hid ▸ hpasses
  · rw [if_neg hid]
    exact .keeps

/-- Objects that are there before and after an action keep their owners, or pass as it says. -/
theorem Does.hands (hdoes : Does lexicon action w next) (hnumbered : w.Numbered)
    (hfind : w.find? id = some o) (hnext : next.find? id = some p) :
    Hands lexicon action w id o.owner p.owner := by
  induction hdoes generalizing o p with
  | nothing =>
      cases hfind.symm.trans hnext
      exact .keeps
  | creates hok => exact .of_keepsOwners (World.keepsOwners_create hnumbered hok) hfind hnext
  | destroys hok => exact .of_keepsOwners (World.keepsOwners_remove hok) hfind hnext
  | puts hok => exact .of_keepsOwners (World.keepsOwners_putInto hok) hfind hnext
  | retrieves hok => exact .of_keepsOwners (World.keepsOwners_takeOut hok) hfind hnext
  | takes hresolve howner hopen hok =>
      refine .of_setOwner hnumbered (Target.mem_of_resolve hresolve) hok ?_ hfind hnext
      rw [howner]
      exact .takes hresolve howner hopen
  | gives hresolve howner hok =>
      refine .of_setOwner hnumbered (Target.mem_of_resolve hresolve) hok ?_ hfind hnext
      rw [howner]
      exact .gives hresolve howner
  | supposes _ ih => exact .supposes (ih hnumbered hfind hnext)
  | commands hcheck hcommand ihCheck ihCommand =>
      -- an object that is left after the command was there after the check, since no id comes back
      have hchecked := hcheck.succeeds hnumbered
      have hlt := Nat.lt_of_lt_of_le (hnumbered.lt_of_find? hfind) hchecked.nextId_le
      obtain ⟨between, hbetween⟩ := (hcommand.succeeds hchecked.numbered).exists_find? hlt hnext
      exact .commands (ihCheck hnumbered hfind hbetween)
        (ihCommand hchecked.numbered hbetween hnext)

theorem Hands.of_user (hhands : Hands lexicon action w id before after) (hbefore : before = .user) :
    after = .user := by
  induction hhands with
  | keeps => exact hbefore
  | takes | gives => cases hbefore
  | supposes _ ih => exact ih hbefore
  | commands _ _ ihCheck ihCommand => exact ihCommand (ihCheck hbefore)

end Action

end Apprentice
