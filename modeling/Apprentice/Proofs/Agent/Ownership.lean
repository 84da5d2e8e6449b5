import Apprentice.Proofs.Action.Ownership
import Apprentice.Proofs.Agent.Footprint
import Apprentice.Proofs.Goal.Conduct

/-!
# Owners through conversations

Whatever is said to an agent and however often it ticks, its world only changes by actions that are
carried out. So objects change hands in the two ways in which actions let them, and what the user
has stays with the user for as long as it is there.
-/

namespace Apprentice

variable {w next : World} {agent : Agent} {id : ObjectId} {o p : Object}

namespace World.Acted

theorem succeeds (hacted : w.Acted next) (hnumbered : w.Numbered) : w.Succeeds next := by
  induction hacted with
  | start => exact succeeds_refl hnumbered
  | acts _ action lexicon ih =>
      exact ih.trans ((action.does_execute lexicon _).succeeds ih.numbered)
  | ticks _ ih => exact ih.trans (Step.advanceClock.succeeds ih.numbered)

theorem of_user (hacted : w.Acted next) (hnumbered : w.Numbered) (hfind : w.find? id = some o)
    (howner : o.owner = .user) (hnext : next.find? id = some p) : p.owner = .user := by
  induction hacted generalizing p with
  | start =>
      cases hfind.symm.trans hnext
      exact howner
  | @acts before hbefore action lexicon ih =>
      have hsucceeds := hbefore.succeeds hnumbered
      have hdoes := action.does_execute lexicon before
      have hlt := Nat.lt_of_lt_of_le (hnumbered.lt_of_find? hfind) hsucceeds.nextId_le
      obtain ⟨between, hbetween⟩ := (hdoes.succeeds hsucceeds.numbered).exists_find? hlt hnext
      exact (hdoes.hands hsucceeds.numbered hbetween hnext).of_user (ih hbetween)
  | ticks _ ih => exact ih hnext

end World.Acted

namespace Agent

theorem acted_process (hacted : w.Acted agent.world) (text : String) :
    w.Acted (agent.process text).2.world := by
  rcases (touches_process agent text).world with hsame | ⟨lexicon, action, hworld⟩
  · rw [hsame]
    exact hacted
  · rw [hworld]
    exact .acts hacted action lexicon

theorem acted_call (hacted : w.Acted agent.world) (call : Call) :
    w.Acted (agent.call call).world := by
  cases call with
  | process text => exact acted_process hacted text
  | tick => exact agent.scheduler.acted_tick hacted agent.goals agent.lexicon
  | setGoal text =>
      rw [Agent.call]
      split
      next hset =>
        obtain ⟨reading, -, hset⟩ := bind_eq_ok hset
        cases reading <;>
        · cases hset
          exact hacted
      next => exact hacted
  | cancel goal =>
      rw [Agent.call]
      split
      next hcancel =>
        rw [cancel] at hcancel
        split at hcancel
        next => cases hcancel
        next =>
          cases hcancel
          exact hacted
      next => exact hacted

theorem acted_afterCalls (hacted : w.Acted agent.world) (calls : List Call) :
    w.Acted (agent.afterCalls calls).world := by
  induction calls generalizing agent with
  | nil => exact hacted
  | cons call calls ih => exact ih (acted_call hacted call)

/-- In every world on the way, an object that is there before and after an action keeps its owner,
unless it lies in the open, belongs to nobody and is taken by the agent, or the agent has it and
gives it away. So what the user has never changes hands, whatever is said and however often the
agent ticks. -/
theorem hands_over_by_take_or_give (hreachable : agent.world.Reachable) :
    (∀ before, agent.world.Acted before → ∀ lexicon action id o p, before.find? id = some o →
        (Action.execute lexicon action before).2.find? id = some p →
        action.Hands lexicon before id o.owner p.owner) ∧
      ∀ calls, agent.world.Acted (agent.afterCalls calls).world ∧
        ∀ o ∈ agent.world.objects, o.owner = .user →
          ∀ p ∈ (agent.afterCalls calls).world.objects, p.id = o.id → p.owner = .user := by
  have hnumbered := hreachable.sound.numbered
  constructor
  · intro before hbefore lexicon action id o p hfind hnext
    exact (action.does_execute lexicon before).hands (hbefore.succeeds hnumbered).numbered hfind
      hnext
  · intro calls
    have hacted : agent.world.Acted (agent.afterCalls calls).world := acted_afterCalls .start calls
    refine ⟨hacted, fun o ho howner p hp hid => ?_⟩
    have hfirst := World.find?_of_mem hnumbered.nodup ho
    have hlast := World.find?_of_mem (hacted.succeeds hnumbered).numbered.nodup hp
    rw [hid] at hlast
    exact hacted.of_user hnumbered hfirst howner hlast

/-- The agent takes the ball, which nobody has, gives it to the user and cannot take it again. The
box is the user's all the time, though the agent is told twice to take it. -/
theorem hands_over_by_take_or_give_ball :
    let ops : List World.Operation :=
      [.create { name := "ball" }, .create { name := "box" }, .setOwner 2 .user]
    let lexicon : Lexicon := .ofLessons
      [⟨"take", .action, "take", false⟩, ⟨"give", .action, "give", false⟩]
    let calls : List Call := [.process "take box", .process "take ball", .process "take box", .tick,
      .process "give ball", .process "take ball"]
    ∃ w, (World.new 2 1).run ops = some w ∧ w.objects.map Object.owner = [.world, .user] ∧
      let agent := inWorld .blank lexicon .silent w
      (agent.afterCalls (calls.take 2)).world.objects.map Object.owner = [.agent, .user] ∧
      (agent.afterCalls calls).world.objects.map Object.owner = [.user, .user] ∧
      ∀ o ∈ w.objects, o.owner = .user →
        ∀ p ∈ (agent.afterCalls calls).world.objects, p.id = o.id → p.owner = .user := by
  intro ops lexicon calls
  have hrun : (World.new 2 1).run ops = some (((World.new 2 1).run ops).getD (World.new 2 1)) := by
    decide +kernel
  have hreachable : (inWorld .blank lexicon .silent
      (((World.new 2 1).run ops).getD (World.new 2 1))).world.Reachable := ⟨2, 1, ops, hrun⟩
  exact ⟨_, hrun, by decide +kernel, by decide +kernel, by decide +kernel,
    ((hands_over_by_take_or_give hreachable).2 calls).2⟩

end Agent

end Apprentice
