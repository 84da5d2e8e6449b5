import Apprentice.Proofs.World.View
import Mathlib.Data.List.Perm.Subperm
import Mathlib.Logic.Relation

/-!
# Containment

The links from objects to their containers form a forest: every link joins live objects, and no
object is reached again by going from container to container. The walk of `ancestors` is cut off
after one step more than there are objects. In a forest it never gets that far, since the containers
around an object are live and all different, so `isInside` finds exactly the containers around an
object.
-/

namespace Apprentice.World

open Relation

variable {w next : World} {id container x : ObjectId}

/-- An object lies in a container, with nothing in between. -/
def DirectlyIn (w : World) (id container : ObjectId) : Prop :=
  w.containerOf? id = some container

/-- An object lies in a container, at any depth. -/
def Within (w : World) : ObjectId → ObjectId → Prop :=
  TransGen w.DirectlyIn

structure Forest (w : World) : Prop where
  linksAreMap : w.LinksAreMap
  live : ∀ {id container}, w.DirectlyIn id container →
    w.contains id = true ∧ w.contains container = true
  acyclic : ∀ id, ¬ w.Within id id

/-! ### The walk outwards -/

theorem within_of_mem_chainOf {steps : Nat} (hmem : x ∈ w.chainOf steps id) : w.Within id x := by
  induction steps generalizing id with
  | zero => cases hmem
  | succ steps ih =>
    rw [chainOf] at hmem
    cases hcontainer : w.containerOf? id with
    | none =>
      rw [hcontainer] at hmem
      cases hmem
    | some container =>
      rw [hcontainer] at hmem
      rcases List.mem_cons.mp hmem with rfl | hmem
      · exact .single hcontainer
      · exact .head hcontainer (ih hmem)

theorem pairwise_chainOf (w : World) (steps : Nat) (id : ObjectId) :
    (w.chainOf steps id).Pairwise w.Within := by
  induction steps generalizing id with
  | zero => exact .nil
  | succ steps ih =>
    rw [chainOf]
    cases w.containerOf? id with
    | none => exact .nil
    | some container => exact .cons (fun _ hmem => within_of_mem_chainOf hmem) (ih container)

theorem mem_chainOf_of_within {steps : Nat} (hends : (w.chainOf steps id).length < steps)
    (hwithin : w.Within id x) : x ∈ w.chainOf steps id := by
  induction steps generalizing id with
  | zero => omega
  | succ steps ih =>
    obtain ⟨container, hcontainer, hrest⟩ := TransGen.head'_iff.mp hwithin
    have hchain : w.chainOf (steps + 1) id = container :: w.chainOf steps container := by
      rw [chainOf, show w.containerOf? id = some container from hcontainer]
    rw [hchain] at hends ⊢
    rcases reflTransGen_iff_eq_or_transGen.mp hrest with rfl | hrest
    · exact List.mem_cons_self
    · exact List.mem_cons_of_mem _ (ih (by simpa using hends) hrest)

theorem Forest.contains_of_within (hforest : w.Forest) (hwithin : w.Within id x) :
    w.contains x = true := by
  obtain ⟨_, _, hlast⟩ := TransGen.tail'_iff.mp hwithin
  exact (hforest.live hlast).2

theorem Forest.nodup_chainOf (hforest : w.Forest) (steps : Nat) (id : ObjectId) :
    (w.chainOf steps id).Nodup := by
  refine (pairwise_chainOf w steps id).imp ?_
  rintro a b hwithin rfl
  exact hforest.acyclic a hwithin

theorem Forest.length_chainOf_le (hforest : w.Forest) (steps : Nat) (id : ObjectId) :
    (w.chainOf steps id).length ≤ w.objects.length := by
  have hlive : w.chainOf steps id ⊆ w.ids := fun x hmem =>
    contains_iff_mem_ids.mp (hforest.contains_of_within (within_of_mem_chainOf hmem))
  have hle := ((hforest.nodup_chainOf steps id).subperm hlive).length_le
  rwa [ids, List.length_map] at hle

/-- The walk ends before it is cut off. -/
theorem Forest.length_ancestors_lt (hforest : w.Forest) (id : ObjectId) :
    (w.ancestors id).length < w.objects.length + 1 :=
  Nat.lt_succ_of_le (hforest.length_chainOf_le _ id)

theorem Forest.mem_ancestors_iff (hforest : w.Forest) : x ∈ w.ancestors id ↔ w.Within id x :=
  ⟨within_of_mem_chainOf, mem_chainOf_of_within (hforest.length_ancestors_lt id)⟩

/-- The check for cycles is exact: it finds an object around another one, at any depth. -/
theorem Forest.isInside_iff (hforest : w.Forest) :
    w.isInside id x = true ↔ w.Within id x := by
  rw [isInside, List.contains_iff_mem, hforest.mem_ancestors_iff]

/-! ### Changes that keep the forest -/

/-- Links that only shorten ways which were there before close no cycle. -/
theorem Forest.acyclic_of_le (hforest : w.Forest)
    (hle : ∀ a b, next.DirectlyIn a b → w.Within a b) (id : ObjectId) : ¬ next.Within id id :=
  fun hcycle => hforest.acyclic id (TransGen.closed hle id id hcycle)

theorem Forest.of_containers_eq (hforest : w.Forest) (hsame : next.containers = w.containers)
    (hids : w.ids ⊆ next.ids) : next.Forest := by
  have hcontainer : ∀ x, next.containerOf? x = w.containerOf? x := by
    intro x
    rw [containerOf?, containerOf?, hsame]
  have hlive : ∀ x, w.contains x = true → next.contains x = true := by
    intro x hx
    rw [contains_iff_mem_ids] at hx ⊢
    exact hids hx
  refine ⟨?_, fun {id container} hin => ?_, ?_⟩
  · rw [LinksAreMap, hsame]
    exact hforest.linksAreMap
  · have hold := hforest.live ((hcontainer id).symm.trans hin)
    exact ⟨hlive _ hold.1, hlive _ hold.2⟩
  · exact hforest.acyclic_of_le fun a b hin => .single ((hcontainer a).symm.trans hin)

/-- A way over a new link from `id` to `container` leads up to `id` and goes on from `container`. -/
theorem within_link {a b : ObjectId} (hwithin : (w.link id container).Within a b) :
    w.Within a b ∨
      (ReflTransGen w.DirectlyIn a id ∧ ReflTransGen w.DirectlyIn container b) := by
  have hstep : ∀ {y z}, (w.link id container).DirectlyIn y z →
      w.DirectlyIn y z ∨ (y = id ∧ z = container) := by
    intro y z hin
    rw [DirectlyIn, containerOf?_link] at hin
    split at hin
    next hy => exact .inr ⟨hy, (Option.some.inj hin).symm⟩
    next => exact .inl hin
  induction hwithin with
  | single hin =>
    rcases hstep hin with hold | ⟨rfl, rfl⟩
    · exact .inl (.single hold)
    · exact .inr ⟨.refl, .refl⟩
  | tail _ hin ih =>
    rcases hstep hin with hold | ⟨rfl, rfl⟩
    · rcases ih with ih | ⟨hto, hfrom⟩
      · exact .inl (ih.tail hold)
      · exact .inr ⟨hto, hfrom.tail hold⟩
    · rcases ih with ih | ⟨hto, _⟩
      · exact .inr ⟨ih.to_reflTransGen, .refl⟩
      · exact .inr ⟨hto, .refl⟩

theorem Forest.link (hforest : w.Forest) (hid : w.contains id = true)
    (hcontainer : w.contains container = true) (hne : id ≠ container)
    (hnot : ¬ w.Within container id) : (w.link id container).Forest where
  linksAreMap := linksAreMap_link hforest.linksAreMap id container
  live := by
    intro y z hin
    rw [DirectlyIn, containerOf?_link] at hin
    split at hin
    next hy =>
      subst hy
      cases hin
      exact ⟨hid, hcontainer⟩
    next => exact hforest.live hin
  acyclic := by
    intro y hcycle
    rcases within_link hcycle with hold | ⟨hto, hfrom⟩
    · exact hforest.acyclic y hold
    · rcases reflTransGen_iff_eq_or_transGen.mp (hfrom.trans hto) with heq | hwithin
      · exact hne heq
      · exact hnot hwithin

theorem Forest.unlink (hforest : w.Forest) (id : ObjectId) : (w.unlink id).Forest where
  linksAreMap := linksAreMap_unlink hforest.linksAreMap id
  live := by
    intro y z hin
    rw [DirectlyIn, containerOf?_unlink] at hin
    split at hin
    next => cases hin
    next => exact hforest.live hin
  acyclic := by
    refine hforest.acyclic_of_le fun a b hin => ?_
    rw [DirectlyIn, containerOf?_unlink] at hin
    split at hin
    next => cases hin
    next => exact .single hin

end Apprentice.World
