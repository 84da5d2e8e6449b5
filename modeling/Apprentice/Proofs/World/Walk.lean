import Apprentice.Proofs.Loop
import Apprentice.Proofs.World.Run
import Mathlib.Data.Set.Card

/-!
# Walking outwards

Two loops go from container to container: one looks for a given container, the other one counts.
Neither keeps a record of where it has been, so in a cycle they would go round for ever; the count
is given up then, as soon as it is greater than the number of objects. In a world that is reached,
both end at an object in the open. What is found is exactly whether one object lies in another one,
and the count is exactly the number of containers around an object, which is never given up.
-/

namespace Apprentice.World

open Relation

variable {w : World} {id x : ObjectId}

/-! ### The loops -/

/-- Goes one container outwards, if it is not the one that is looked for. -/
def findStep (w : World) (x id : ObjectId) : Bool ⊕ ObjectId :=
  match w.containerOf? id with
  | none => .inl false
  | some container => if container = x then .inl true else .inr container

/-- Goes outwards until the container is the one that is looked for, or there is none. -/
def findOutwards (w : World) (x : ObjectId) : ObjectId → Part Bool :=
  loop (w.findStep x)

inductive Count where
  | whole (depth : Nat)
  /-- It was given up, because there are fewer objects. -/
  | givenUp (depth : Nat)
  deriving DecidableEq, Repr

def countStep (w : World) : Nat × ObjectId → Count ⊕ (Nat × ObjectId)
  | (depth, id) =>
    match w.containerOf? id with
    | none => .inl (.whole depth)
    | some container =>
      if w.objects.length < depth + 1 then .inl (.givenUp (depth + 1))
      else .inr (depth + 1, container)

/-- Goes outwards and counts, in addition to `depth` containers that have been counted. -/
def countOutwards (w : World) (depth : Nat) (id : ObjectId) : Part Count :=
  loop w.countStep (depth, id)

/-! ### Walks that end -/

theorem findOutwards_eq {steps : Nat} (hends : (w.chainOf steps id).length < steps) :
    w.findOutwards x id = Part.some ((w.chainOf steps id).contains x) := by
  induction steps generalizing id with
  | zero => cases hends
  | succ steps ih =>
    rw [chainOf] at hends ⊢
    cases hcontainer : w.containerOf? id with
    | none => exact loop_answer (by rw [findStep, hcontainer]; rfl)
    | some container =>
      rw [hcontainer] at hends
      dsimp only
      rw [List.contains_cons]
      by_cases hx : container = x
      · rw [hx, beq_self_eq_true, Bool.true_or]
        exact loop_answer (by simp only [findStep, hcontainer, if_pos hx])
      · rw [beq_false_of_ne (Ne.symm hx), Bool.false_or, ← ih (Nat.lt_of_succ_lt_succ hends)]
        exact loop_next (by simp only [findStep, hcontainer, if_neg hx])

theorem countOutwards_eq {steps depth : Nat} (hends : (w.chainOf steps id).length < steps)
    (hroom : depth + (w.chainOf steps id).length ≤ w.objects.length) :
    w.countOutwards depth id = Part.some (.whole (depth + (w.chainOf steps id).length)) := by
  induction steps generalizing id depth with
  | zero => cases hends
  | succ steps ih =>
    rw [chainOf] at hends hroom ⊢
    cases hcontainer : w.containerOf? id with
    | none => exact loop_answer (by rw [countStep, hcontainer]; rfl)
    | some container =>
      rw [hcontainer] at hends hroom
      rw [List.length_cons] at hends hroom
      have hbelow : ¬ w.objects.length < depth + 1 := by omega
      have hstep : w.countStep (depth, id) = .inr (depth + 1, container) := by
        simp only [countStep, hcontainer, if_neg hbelow]
      calc w.countOutwards depth id
        _ = w.countOutwards (depth + 1) container := loop_next hstep
        _ = Part.some (.whole (depth + 1 + (w.chainOf steps container).length)) :=
          ih (by omega) (by omega)
        _ = Part.some (.whole (depth + (container :: w.chainOf steps container).length)) := by
          rw [List.length_cons, Nat.add_assoc, Nat.add_comm 1]

/-- As many containers lie around an object as the walk meets. -/
theorem Forest.encard_within (hforest : w.Forest) (id : ObjectId) :
    {x | w.Within id x}.encard = w.depth id := by
  have hancestors : {x | w.Within id x} = ((w.ancestors id).toFinset : Set ObjectId) :=
    Set.ext fun x => by simp [hforest.mem_ancestors_iff]
  have hnodup : (w.ancestors id).Nodup := hforest.nodup_chainOf _ id
  rw [hancestors, Set.encard_coe_eq_coe_finsetCard, List.toFinset_card_of_nodup hnodup, depth]

/-- In every world that is reached, the loop that looks for a container ends, and it finds exactly
what the links lead to; and the loop that counts containers ends without being given up, with the
number of all that the links lead to. -/
theorem outwards_exact (hreachable : w.Reachable) (a b : ObjectId) :
    (w.findOutwards b a = Part.some (w.isInside a b) ∧
      (w.isInside a b = true ↔ TransGen (fun x y => w.containerOf? x = some y) a b)) ∧
    w.countOutwards 0 a = Part.some (.whole (w.depth a)) ∧
    {x | TransGen (fun x y => w.containerOf? x = some y) a x}.encard = w.depth a := by
  have hforest := hreachable.sound.forest
  have hends := hforest.length_ancestors_lt a
  refine ⟨⟨findOutwards_eq hends, hforest.isInside_iff⟩, ?_, hforest.encard_within a⟩
  have hroom : 0 + (w.ancestors a).length ≤ w.objects.length := by omega
  simpa [depth, ancestors] using countOutwards_eq hends hroom

/-- An object in a chest in a crate lies in both, and the crate does not lie in the chest. -/
theorem outwards_exact_of_nested :
    ∃ w, (new 3 1).run [.create {}, .create {}, .create {}, .putInto 2 1, .putInto 3 2] = some w ∧
      w.findOutwards 1 3 = Part.some true ∧ w.findOutwards 2 1 = Part.some false ∧
      w.countOutwards 0 3 = Part.some (.whole 2) := by
  have hends : (((new 3 1).run
      [.create {}, .create {}, .create {}, .putInto 2 1, .putInto 3 2]).map
        fun w => (w.isInside 3 1, w.isInside 1 2, w.depth 3)) = some (true, false, 2) := by
    decide +kernel
  obtain ⟨w, hrun, hseen⟩ := Option.map_eq_some_iff.mp hends
  obtain ⟨hin, hout, hdepth⟩ : w.isInside 3 1 = true ∧ w.isInside 1 2 = false ∧ w.depth 3 = 2 := by
    simpa using hseen
  have hreachable : w.Reachable := ⟨3, 1, _, hrun⟩
  refine ⟨w, hrun, ?_, ?_, ?_⟩
  · rw [(outwards_exact hreachable 3 1).1.1, hin]
  · rw [(outwards_exact hreachable 1 2).1.1, hout]
  · rw [(outwards_exact hreachable 3 1).2.1, hdepth]

end Apprentice.World
