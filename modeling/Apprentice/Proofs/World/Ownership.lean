import Apprentice.Proofs.World.Replay

/-!
# Owners through the operations

No id is given twice, so an object that is there before and after an operation was there all the
time. Only `setOwner` gives it another owner; to move it, to take it out of a container that is
removed, or to make other objects leaves the owner as it is.
-/

namespace Apprentice.World

variable {w next last : World} {id x container : ObjectId} {o p : Object} {given : List ObjectId}

/-! ### No id is given twice -/

/-- How a world is related to a later one: ids are still given once, and those of objects that are
gone are not given again. -/
structure Succeeds (w next : World) : Prop where
  numbered : next.Numbered
  nextId_le : w.nextId ≤ next.nextId
  contains : ∀ {id}, next.contains id = true → id < w.nextId → w.contains id = true

theorem succeeds_refl (hnumbered : w.Numbered) : w.Succeeds w :=
  ⟨hnumbered, Nat.le_refl _, fun hcontains _ => hcontains⟩

theorem Succeeds.trans (hfirst : w.Succeeds next) (hthen : next.Succeeds last) :
    w.Succeeds last where
  numbered := hthen.numbered
  nextId_le := Nat.le_trans hfirst.nextId_le hthen.nextId_le
  contains hcontains hlt :=
    hfirst.contains (hthen.contains hcontains (Nat.lt_of_lt_of_le hlt hfirst.nextId_le)) hlt

theorem Numbered.lt_of_find? (hnumbered : w.Numbered) (hfind : w.find? id = some o) :
    id < w.nextId :=
  hnumbered.id_lt id (contains_iff_mem_ids.mp (contains_of_find? hfind))

theorem Succeeds.exists_find? (hsucceeds : next.Succeeds last) (hlt : id < next.nextId)
    (hfind : last.find? id = some p) : ∃ o, next.find? id = some o :=
  contains_iff.mp (hsucceeds.contains (contains_of_find? hfind) hlt)

theorem Numbered.step (hnumbered : w.Numbered) (hstep : Step w given next) : next.Numbered := by
  cases hstep with
  | create hok =>
      obtain ⟨rfl, -, cell, -, rfl⟩ := create_eq_ok hok
      exact (hnumbered.withObject rfl).of_ids_eq rfl rfl
  | @setOwner id owner _ hok =>
      obtain ⟨o, -, ⟨-, rfl⟩ | ⟨-, rfl⟩⟩ := setOwner_eq_ok hok
      · exact hnumbered
      · have hids := ids_modify (f := fun o => { o with owner := owner }) (fun _ => rfl) w id
        exact hnumbered.of_ids_eq hids rfl
  | @putInto id container _ hok =>
      obtain ⟨-, -, -, -, rfl⟩ := putInto_eq_ok hok
      exact hnumbered.of_ids_eq
        (ids_modify (f := moveTo none) (fun _ => rfl) (w.link id container) id) rfl
  | @takeOut id container _ hok =>
      obtain ⟨-, -, cell, -, rfl⟩ := takeOut_eq_ok hok
      exact hnumbered.of_ids_eq (sameFrame_move w id (some cell)).ids rfl
  | @remove id o _ hok =>
      obtain ⟨-, -, rfl⟩ := remove_eq_ok hok
      have hframe := sameFrame_spill (w.containerOf? id) ((w.without id).contentsOf id) (w.without id)
      exact (hnumbered.without id).of_ids_eq hframe.ids hframe.nextId
  | advanceClock => exact hnumbered.of_ids_eq rfl rfl

theorem Step.succeeds (hstep : Step w given next) (hnumbered : w.Numbered) : w.Succeeds next where
  numbered := hnumbered.step hstep
  nextId_le := hstep.advances.nextId ▸ Nat.le_add_left _ _
  contains := by
    intro id hcontains hlt
    rw [contains_iff_mem_ids] at hcontains ⊢
    rcases hstep.advances.live id hcontains with hold | hgiven
    · exact hold
    · rw [hstep.advances.given_eq, List.mem_range'_1] at hgiven
      exact absurd hlt (Nat.not_lt.mpr hgiven.1)

/-! ### Owners -/

def KeepsOwners (w next : World) : Prop :=
  ∀ {id o p}, w.find? id = some o → next.find? id = some p → p.owner = o.owner

theorem keepsOwners_of_standing (hstanding : ∀ id, next.standing id = none ∨
    next.standing id = w.standing id) : KeepsOwners w next := by
  intro id o p hfind hnext
  rcases hstanding id with hnone | hsame
  · rw [standing_eq_some hnext] at hnone
    cases hnone
  · rw [standing_eq_some hnext, standing_eq_some hfind] at hsame
    exact (Prod.mk.inj (Option.some.inj hsame)).2

theorem keepsOwners_create {blueprint : Blueprint} (hnumbered : w.Numbered)
    (hok : w.create blueprint = .ok (id, next)) : KeepsOwners w next := by
  obtain ⟨rfl, -, cell, -, rfl⟩ := create_eq_ok hok
  intro x o p hfind hnext
  have hold : x ≠ (w.newObject blueprint cell).id := Nat.ne_of_lt (hnumbered.lt_of_find? hfind)
  change (w.withObject (w.newObject blueprint cell)).find? x = some p at hnext
  rw [hnumbered.find?_withObject rfl, if_neg hold, hfind] at hnext
  cases hnext
  rfl

theorem keepsOwners_putInto (hok : w.putInto id container = .ok next) : KeepsOwners w next := by
  obtain ⟨-, -, -, -, rfl⟩ := putInto_eq_ok hok
  exact keepsOwners_of_standing fun x =>
    .inr (congrFun (standing_modify_moveTo (w.link id container) id none) x)

theorem keepsOwners_takeOut (hok : w.takeOut id = .ok (container, next)) : KeepsOwners w next := by
  obtain ⟨-, -, cell, -, rfl⟩ := takeOut_eq_ok hok
  exact keepsOwners_of_standing fun x =>
    .inr (congrFun (standing_modify_moveTo (w.unlink id) id (some cell)) x)

theorem keepsOwners_remove (hok : w.remove id = .ok (o, next)) : KeepsOwners w next := by
  obtain ⟨-, -, rfl⟩ := remove_eq_ok hok
  refine keepsOwners_of_standing fun x => ?_
  change (w.emptiedOut id).standing x = none ∨ (w.emptiedOut id).standing x = w.standing x
  rw [standing_emptiedOut]
  by_cases hx : x = id
  · exact .inl (if_pos hx)
  · exact .inr (if_neg hx)

theorem owner_of_setOwner {owner : Owner} (hok : w.setOwner id owner = .ok next)
    (hfind : w.find? x = some o) (hnext : next.find? x = some p) :
    p.owner = if x = id then owner else o.owner := by
  obtain ⟨held, hheld, ⟨howner, rfl⟩ | ⟨-, rfl⟩⟩ := setOwner_eq_ok hok
  · cases hfind.symm.trans hnext
    by_cases hx : x = id
    · rw [hx, hheld] at hfind
      cases hfind
      rw [if_pos hx, howner]
    · rw [if_neg hx]
  · change (w.modify id fun o => { o with owner := owner }).find? x = some p at hnext
    rw [find?_modify (f := fun o => { o with owner := owner }) (fun _ => rfl), hfind] at hnext
    by_cases hx : x = id
    · rw [if_pos hx] at hnext ⊢
      cases hnext
      rfl
    · rw [if_neg hx] at hnext ⊢
      cases hnext
      rfl

end Apprentice.World
