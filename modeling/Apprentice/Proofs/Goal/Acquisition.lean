import Apprentice.Proofs.Goal.Possession

/-!
# Having something, once

A goal to have something takes one object at most and makes one at most, however many ticks pass, if
its description reads neither the owner nor the position. Then nothing that the plan does to an
object changes whether it fits. So what is taken is what was looked for, and the goal is achieved by
it; and what is made but cannot be taken is found again by the next plan, which makes no other.

Both can only fail over names. An object that does not answer to its own name is missed in every
tick, and that is no harm, but a name that means another object is: the goal then takes objects that
were not looked for.
-/

namespace Apprentice

variable {w first : World} {lexicon : Lexicon} {d : Description} {g : Goal} {plan : Plan}
  {t : Ticked} {o : Object} {name : String} {taken made : Nat} {blueprint : Blueprint} {cell : Cell}
  {container : ObjectId}

/-! ### Counting -/

def Event.isTaking (e : Event) : Bool :=
  match e.kind with
  | .transfer _ .agent => true
  | _ => false

def Event.isCreation (e : Event) : Bool :=
  e.kind = .create

namespace World

/-- How many objects have passed to the agent since a world was as given, and how many were made. -/
def Gains (first w : World) (taken made : Nat) : Prop :=
  ∃ news, w.events = first.events ++ news ∧
    news.countP Event.isTaking = taken ∧ news.countP Event.isCreation = made

theorem gains_refl (w : World) : Gains w w 0 0 :=
  ⟨[], (List.append_nil _).symm, rfl, rfl⟩

theorem Gains.concat {next : World} {e : Event} (hgains : Gains first w taken made)
    (hevents : next.events = w.events ++ [e]) :
    Gains first next (taken + [e].countP Event.isTaking) (made + [e].countP Event.isCreation) := by
  obtain ⟨news, hnews, rfl, rfl⟩ := hgains
  refine ⟨news ++ [e], ?_, List.countP_append, List.countP_append⟩
  rw [hevents, hnews, List.append_assoc]

theorem Gains.handOver (hgains : Gains first w taken made) (o : Object) :
    Gains first (w.handOver o .agent) (taken + 1) made :=
  hgains.concat
    (e := ⟨w.events.length + 1, w.time, o.id, o.name, .transfer o.owner .agent⟩) rfl

theorem Gains.liftOut (hgains : Gains first w taken made) (o : Object) (container : ObjectId)
    (cell : Cell) : Gains first (w.liftOut o container cell) taken made :=
  hgains.concat (e := ⟨w.events.length + 1, w.time, o.id, o.name,
    .takeOut container (w.nameOf container)⟩) rfl

theorem Gains.withNew (hgains : Gains first w taken made) (blueprint : Blueprint) (cell : Cell) :
    Gains first (w.withNew blueprint cell) taken (made + 1) :=
  hgains.concat (e := ⟨w.events.length + 1, w.time, w.nextId,
    (w.newObject blueprint cell).name, .create⟩) rfl

/-! ### What can be taken -/

/-- Whether a name means something that fits and can be taken at once. -/
structure Ready (w : World) (d : Description) (name : String) (o : Object) : Prop where
  named : w.named? name = some o
  owner : o.owner = .world
  opened : w.containerOf? o.id = none
  fits : d.fits o = true

theorem Ready.advanceClock (hready : w.Ready d name o) : w.advanceClock.Ready d name o :=
  ⟨hready.named, hready.owner, hready.opened, hready.fits⟩

/-- Whether nothing can be taken under a name. -/
def Missed (w : World) (name : String) : Prop :=
  ∀ o, w.named? name = some o → o.owner = .world → w.containerOf? o.id ≠ none

/-- Whether the name of nothing that could be had means something else. -/
def Honest (w : World) (d : Description) : Prop :=
  ∀ o ∈ w.wanted d, w.named? o.name = some o ∨ w.named? o.name = none

theorem WellNamed.honest (hnames : w.WellNamed) (d : Description) : w.Honest d :=
  fun o ho => .inl (hnames o (mem_wanted.mp ho).1)

theorem fits_handedOver (howner : d.reads .owner = false) (o : Object) (owner : Owner) :
    d.fits { o with owner := owner } = d.fits o := by
  refine Description.fits_congr fun field hreads => ?_
  cases field with
  | owner => exact absurd hreads (by simp [howner])
  | _ => rfl

theorem fits_moveTo (hposition : d.reads .position = false) (o : Object) (position : Option Cell) :
    d.fits (moveTo position o) = d.fits o := by
  refine Description.fits_congr fun field hreads => ?_
  cases field with
  | position => exact absurd hreads (by simp [hposition])
  | _ => rfl

theorem Ready.holds_handOver (hready : w.Ready d name o) (howner : d.reads .owner = false) :
    (w.handOver o .agent).holds d = true := by
  refine holds_iff.mpr ⟨{ o with owner := .agent }, List.mem_map.mpr ⟨o, mem_of_named? hready.named,
    if_pos (beq_self_eq_true _)⟩, ?_, rfl⟩
  rw [fits_handedOver howner]
  exact hready.fits

theorem ready_liftOut (hposition : d.reads .position = false) (ho : o ∈ w.wanted d)
    (hnamed : w.named? o.name = some o) :
    (w.liftOut o container cell).Ready d o.name (moveTo (some cell) o) := by
  obtain ⟨-, hfits, howner⟩ := mem_wanted.mp ho
  refine ⟨?_, howner, ?_, ?_⟩
  · rw [named?_liftOut, hnamed, Option.map_some, if_pos (beq_self_eq_true _)]
  · rw [containerOf?_liftOut]
    exact if_pos rfl
  · rw [fits_moveTo hposition]
    exact hfits

theorem fits_newObject (howner : d.reads .owner = false) (hposition : d.reads .position = false)
    (hsynthesize : d.synthesize (some name) = .ok blueprint) (hfree : w.freeCell? = some cell) :
    d.fits (w.newObject blueprint cell) = true ∧ (w.newObject blueprint cell).owner = .world ∧
      (w.newObject blueprint cell).name = name := by
  refine ⟨d.fits_build (d.madeAsTried_of_given hposition name w) hsynthesize hfree _ _, ?_, ?_⟩
  · rw [newObject, Blueprint.build, d.owner_of_synthesize howner hsynthesize]
    rfl
  · rw [newObject, Blueprint.build, d.name_of_synthesize hsynthesize]
    rfl

theorem wanted_withNew (hnothing : w.wanted d = [])
    (hfits : d.fits (w.newObject blueprint cell) = true)
    (howner : (w.newObject blueprint cell).owner = .world) :
    (w.withNew blueprint cell).wanted d = [w.newObject blueprint cell] := by
  change ((w.objects ++ [w.newObject blueprint cell]).filter d.fits).filter _ = _
  change (w.objects.filter d.fits).filter _ = [] at hnothing
  rw [List.filter_append, List.filter_append, hnothing]
  simp [hfits, howner]

/-! ### First steps -/

/-- Whether a name can be taken, or is missed for good: nothing that could be had answers to another
name than its own, and something could be had if something has been made. -/
def Leads (w : World) (d : Description) (name : String) (made : Nat) : Prop :=
  (∃ o, w.Ready d name o) ∨ (w.Missed name ∧ w.Honest d ∧ (made = 1 → w.wanted d ≠ []))

/-- Lifting something out of its container makes it ready, or it goes on being missed. -/
theorem leads_of_retrieve (hsound : w.Sound) (hposition : d.reads .position = false)
    (hhonest : w.Honest d) (ho : o ∈ w.wanted d) (hcontainer : w.containerOf? o.id = some container)
    (hgains : first.Gains w 0 made) (hfound : made = 1 → w.wanted d ≠ []) (lexicon : Lexicon)
    (label : String) :
    ∃ next, ((Action.retrieveFromContainer o.name label).execute lexicon w).2 = next ∧
      next.Sound ∧ first.Gains next 0 made ∧ next.Leads d o.name made := by
  rcases hhonest o ho with hnamed | hunnamed
  · cases hfree : w.freeCell? with
    | some cell =>
        have hfind := find?_of_mem hsound.numbered.nodup (mem_of_named? hnamed)
        rw [Action.execute_retrieve hsound hnamed hcontainer hfree]
        exact ⟨_, rfl, hsound.liftOut hfind hcontainer hfree, hgains.liftOut o container cell,
          .inl ⟨_, ready_liftOut hposition ho hnamed⟩⟩
    | none =>
        rw [Action.execute_retrieve_else hsound fun _ _ _ _ => hfree]
        refine ⟨_, rfl, hsound, hgains, .inr ⟨fun other hother _ => ?_, hhonest, hfound⟩⟩
        obtain rfl := Option.some.inj (hnamed.symm.trans hother)
        rw [hcontainer]
        exact Option.some_ne_none _
  · -- its own name leads nowhere, and stays so, as nothing is named anew
    have hnone : ∀ other, w.named? o.name ≠ some other := by
      rw [hunnamed]
      exact fun other => (Option.some_ne_none other).symm
    rw [Action.execute_retrieve_else hsound fun other _ hother _ => absurd hother (hnone other)]
    exact ⟨_, rfl, hsound, hgains,
      .inr ⟨fun other hother _ => absurd hother (hnone other), hhonest, hfound⟩⟩

/-- Making something makes it ready, unless it does not answer to its name; without room, it is
missed. -/
theorem leads_of_create (hsound : w.Sound) (howner : d.reads .owner = false)
    (hposition : d.reads .position = false) (hhonest : w.Honest d) (hnothing : w.wanted d = [])
    (hunused : w.named? name = none) (hsynthesize : d.synthesize (some name) = .ok blueprint)
    (hgains : first.Gains w 0 0) (lexicon : Lexicon) :
    ∃ next made, ((Action.create d (some name)).execute lexicon w).2 = next ∧ next.Sound ∧
      first.Gains next 0 made ∧ made ≤ 1 ∧ next.Leads d name made := by
  cases hfree : w.freeCell? with
  | none =>
      rw [Action.execute_create_full hfree]
      refine ⟨_, 0, rfl, hsound, hgains, Nat.zero_le 1, .inr ⟨fun o ho => ?_, hhonest, by simp⟩⟩
      rw [hunused] at ho
      cases ho
  | some cell =>
      have hname := d.name_of_synthesize hsynthesize
      obtain ⟨hfits, hnobody, hcalled⟩ := fits_newObject howner hposition hsynthesize hfree
      have hwanted := wanted_withNew hnothing hfits hnobody
      have hnamed := named?_withNew hunused blueprint cell
      rw [Action.execute_create_unused hsynthesize hname hunused hfree]
      refine ⟨_, 1, rfl, hsound.withNew hname hunused hfree, hgains.withNew blueprint cell,
        Nat.le_refl 1, ?_⟩
      by_cases hkey : Text.lower (w.newObject blueprint cell).name.toList = nameKey name
      · rw [if_pos hkey] at hnamed
        exact .inl ⟨_, hnamed, hnobody, hsound.numbered.containerOf?_nextId hsound.forest, hfits⟩
      · -- blanks around the name: the new object is never found under it
        rw [if_neg hkey] at hnamed
        refine .inr ⟨fun o ho => ?_, fun o ho => .inr ?_, fun _ => by simp [hwanted]⟩
        · rw [hnamed] at ho
          cases ho
        · rw [hwanted] at ho
          rw [List.mem_singleton.mp ho, hcalled]
          exact hnamed

end World

/-! ### The chase -/

/-- Whether the step of a plan that comes next is its last one, and takes the object of a name. -/
structure Plan.LastTakes (plan : Plan) (name : String) : Prop where
  next : plan.nextStep? = some (.take (.named name))
  last : plan.advance.isExhausted = true
  once : plan.repeatable = false

theorem Plan.not_exhausted_of_next {step : Action} (hnext : plan.nextStep? = some step) :
    plan.isExhausted = false := by
  obtain ⟨hlt, -⟩ := List.getElem?_eq_some_iff.mp hnext
  simpa [isExhausted] using hlt

/-- How far a goal may have come since the world was as given. It is looking for something, with at
most one object made, which then can be had; it is about to take something; it is about to miss
something; or it is over. -/
inductive Chase (g : Goal) (d : Description) (first : World) (t : Ticked) : Prop
  | searching {made : Nat} (hsole : g.Sole t.goals)
      (hunplanned : t.scheduler.plans.contains g.id = false) (hsound : t.world.Sound)
      (hhonest : t.world.Honest d) (hgains : first.Gains t.world 0 made) (hmade : made ≤ 1)
      (hfound : made = 1 → t.world.wanted d ≠ [])
  | reaching {plan : Plan} {name : String} {o : Object} {made : Nat} (hsole : g.Sole t.goals)
      (hplan : t.scheduler.plans.get? g.id = some plan) (htakes : plan.LastTakes name)
      (hsound : t.world.Sound) (hready : t.world.Ready d name o)
      (hgains : first.Gains t.world 0 made) (hmade : made ≤ 1)
  | missing {plan : Plan} {name : String} {made : Nat} (hsole : g.Sole t.goals)
      (hplan : t.scheduler.plans.get? g.id = some plan) (htakes : plan.LastTakes name)
      (hsound : t.world.Sound) (hmissed : t.world.Missed name) (hhonest : t.world.Honest d)
      (hgains : first.Gains t.world 0 made) (hmade : made ≤ 1)
      (hfound : made = 1 → t.world.wanted d ≠ [])
  | ended {taken made : Nat} (hidle : t.goals.active = []) (hgains : first.Gains t.world taken made)
      (htaken : taken ≤ 1) (hmade : made ≤ 1)

theorem Chase.gains (hchase : Chase g d first t) :
    ∃ taken made, first.Gains t.world taken made ∧ taken ≤ 1 ∧ made ≤ 1 := by
  cases hchase with
  | searching _ _ _ _ hgains hmade => exact ⟨_, _, hgains, Nat.zero_le 1, hmade⟩
  | reaching _ _ _ _ _ hgains hmade => exact ⟨_, _, hgains, Nat.zero_le 1, hmade⟩
  | missing _ _ _ _ _ _ hgains hmade => exact ⟨_, _, hgains, Nat.zero_le 1, hmade⟩
  | ended _ hgains htaken hmade => exact ⟨_, _, hgains, htaken, hmade⟩

/-- What is ready is taken, and the goal thereby achieved. -/
theorem Ticked.next_takes (hsole : g.Sole t.goals) (hkind : g.kind = .achievePossession)
    (hcondition : g.condition.withCurrentMeanings lexicon = .verifyPossession .agent d)
    (howner : d.reads .owner = false) (hfollows : t.Follows g d plan) (htakes : plan.LastTakes name)
    (hsound : t.world.Sound) (hready : t.world.Ready d name o) :
    (t.next lexicon).world = (t.world.handOver o .agent).advanceClock ∧
      executedOf (t.next lexicon).report.events =
        [⟨"I took " ++ o.name ++ ".", .object o.id⟩] ∧
      (t.next lexicon).goals.active = [] ∧
      ((t.next lexicon).goals.get? g.id).map Goal.status = some .completed := by
  obtain ⟨hworld, hexecuted, hfollowed⟩ := Ticked.next_followed hsole hkind hcondition hfollows
    htakes.once
  have hcarried : plan.carryOut lexicon t.world =
      ([⟨"I took " ++ o.name ++ ".", .object o.id⟩], t.world.handOver o .agent) := by
    rw [Plan.carryOut, htakes.next]
    dsimp only
    rw [Action.execute_take hsound hready.named hready.owner hready.opened]
  rw [hcarried] at hworld hexecuted hfollowed
  have hheld := hready.holds_handOver howner
  cases hfollowed with
  | achieved _ hidle hcompleted => exact ⟨hworld, hexecuted, hidle, hcompleted⟩
  | goesOn hnot => cases hheld.symm.trans hnot
  | startsOver hnot => cases hheld.symm.trans hnot
  | givenUp hnot => cases hheld.symm.trans hnot

section

variable (hkind : g.kind = .achievePossession)
  (hcondition : g.condition.withCurrentMeanings lexicon = .verifyPossession .agent d)
  (howner : d.reads .owner = false) (hposition : d.reads .position = false)

include hkind hcondition

theorem chase_of_ready (hsole : g.Sole t.goals) (howner : d.reads .owner = false)
    (hfollows : t.Follows g d plan) (htakes : plan.LastTakes name) (hsound : t.world.Sound)
    (hready : t.world.Ready d name o) (hgains : first.Gains t.world 0 made) (hmade : made ≤ 1) :
    Chase g d first (t.next lexicon) := by
  obtain ⟨hworld, -, hidle, -⟩ := Ticked.next_takes hsole hkind hcondition howner hfollows htakes
    hsound hready
  refine .ended hidle ?_ (Nat.le_refl 1) hmade
  rw [hworld]
  exact hgains.handOver o

/-- What is missed leaves everything as it was, and the goal starts over. -/
theorem chase_of_missed (hsole : g.Sole t.goals) (hfollows : t.Follows g d plan)
    (htakes : plan.LastTakes name) (hsound : t.world.Sound) (hmissed : t.world.Missed name)
    (hhonest : t.world.Honest d) (hgains : first.Gains t.world 0 made) (hmade : made ≤ 1)
    (hfound : made = 1 → t.world.wanted d ≠ []) : Chase g d first (t.next lexicon) := by
  obtain ⟨hworld, -, hfollowed⟩ := Ticked.next_followed hsole hkind hcondition hfollows htakes.once
  have hcarried : (plan.carryOut lexicon t.world).2 = t.world := by
    rw [Plan.carryOut, htakes.next]
    exact Action.execute_take_else hmissed lexicon
  rw [hcarried] at hworld hfollowed
  cases hfollowed with
  | achieved _ hidle _ => exact .ended hidle (hworld ▸ hgains) (Nat.zero_le 1) hmade
  | goesOn _ hleft => cases htakes.last.symm.trans hleft
  | startsOver _ _ hsole hunplanned =>
      exact .searching hsole hunplanned (hworld ▸ hsound.advanceClock) (hworld ▸ hhonest)
        (hworld ▸ hgains) hmade (hworld ▸ hfound)
  | givenUp _ _ hidle => exact .ended hidle (hworld ▸ hgains) (Nat.zero_le 1) hmade

/-- After the first step of a plan that takes an object in its second one, the object is ready or
missed, unless the goal is achieved already. -/
theorem chase_of_first_step (hsole : g.Sole t.goals) (hfollows : t.Follows g d plan)
    (honce : plan.repeatable = false) (htakes : plan.advance.LastTakes name) {next : World}
    (hcarried : (plan.carryOut lexicon t.world).2 = next) (hsound : next.Sound)
    (hleads : next.Leads d name made)
    (hgains : first.Gains next 0 made) (hmade : made ≤ 1) : Chase g d first (t.next lexicon) := by
  obtain ⟨hworld, -, hfollowed⟩ := Ticked.next_followed hsole hkind hcondition hfollows honce
  rw [hcarried] at hworld hfollowed
  have hleft := Plan.not_exhausted_of_next htakes.next
  cases hfollowed with
  | achieved _ hidle _ => exact .ended hidle (hworld ▸ hgains) (Nat.zero_le 1) hmade
  | goesOn _ _ hsole hplan =>
      rcases hleads with ⟨o, hready⟩ | ⟨hmissed, hhonest, hfound⟩
      · exact .reaching hsole hplan htakes (hworld ▸ hsound.advanceClock)
          (hworld ▸ hready.advanceClock) (hworld ▸ hgains) hmade
      · exact .missing hsole hplan htakes (hworld ▸ hsound.advanceClock) (hworld ▸ hmissed)
          (hworld ▸ hhonest) (hworld ▸ hgains) hmade (hworld ▸ hfound)
  | startsOver _ hexhausted => cases hleft.symm.trans hexhausted
  | givenUp _ hexhausted => cases hleft.symm.trans hexhausted

include howner hposition

/-- A goal without a plan looks for something that can be had, and makes it if there is nothing. -/
theorem chase_of_search (hsole : g.Sole t.goals)
    (hunplanned : t.scheduler.plans.contains g.id = false) (hsound : t.world.Sound)
    (hhonest : t.world.Honest d) (hgains : first.Gains t.world 0 made) (hmade : made ≤ 1)
    (hfound : made = 1 → t.world.wanted d ≠ []) : Chase g d first (t.next lexicon) := by
  have happroach := approach hsound g d
  generalize hplan : possessionPlan g d t.world = planned at happroach
  cases happroach with
  | held hheld =>
      obtain ⟨hworld, -, hfollowed⟩ := Ticked.next_followed hsole hkind hcondition
        (.inr ⟨hunplanned, hplan, rfl⟩) rfl
      cases hfollowed with
      | achieved _ hidle _ => exact .ended hidle (hworld ▸ hgains) (Nat.zero_le 1) hmade
      | goesOn hnot => cases hheld.symm.trans hnot
      | startsOver hnot => cases hheld.symm.trans hnot
      | givenUp hnot => cases hheld.symm.trans hnot
  | @openly o _ ho hopen =>
      obtain ⟨-, hfits, hnobody⟩ := World.mem_wanted.mp ho
      rcases hhonest o ho with hnamed | hnamed
      · exact chase_of_ready hkind hcondition hsole howner (.inr ⟨hunplanned, hplan, rfl⟩)
          ⟨rfl, rfl, rfl⟩ hsound ⟨hnamed, hnobody, hopen, hfits⟩ hgains hmade
      · refine chase_of_missed hkind hcondition hsole (.inr ⟨hunplanned, hplan, rfl⟩)
          ⟨rfl, rfl, rfl⟩ hsound ?_ hhonest hgains hmade hfound
        intro other hother
        rw [hnamed] at hother
        cases hother
  | @inside o container _ ho hcontainer =>
      obtain ⟨next, hcarried, hsound', hgains', hleads⟩ := World.leads_of_retrieve hsound hposition
        hhonest ho hcontainer hgains hfound lexicon container.name
      exact chase_of_first_step hkind hcondition hsole (.inr ⟨hunplanned, hplan, rfl⟩) rfl
        ⟨rfl, rfl, rfl⟩ hcarried hsound' hleads hgains' hmade
  | making _ hnothing hsynthesize =>
      -- what had been made could still be had, so nothing has been made yet
      obtain rfl : made = 0 := by
        rcases Nat.le_one_iff_eq_zero_or_eq_one.mp hmade with hnone | hone
        · exact hnone
        · exact absurd hnothing (hfound hone)
      obtain ⟨_, -, -, -, hunused, -⟩ := freshName_spec d t.world
      obtain ⟨next, made', hcarried, hsound', hgains', hmade', hleads⟩ := World.leads_of_create
        hsound howner hposition hhonest hnothing hunused hsynthesize hgains lexicon
      exact chase_of_first_step hkind hcondition hsole (.inr ⟨hunplanned, hplan, rfl⟩) rfl
        ⟨rfl, rfl, rfl⟩ hcarried hsound' hleads hgains' hmade'
  | nothing hheld =>
      obtain ⟨hworld, hidle | ⟨hsole, hunplanned⟩⟩ := Ticked.next_unplanned hsole hkind hcondition
        hunplanned hplan
      · exact .ended hidle (hworld ▸ hgains) (Nat.zero_le 1) hmade
      · exact .searching hsole hunplanned (hworld ▸ hsound.advanceClock) (hworld ▸ hhonest)
          (hworld ▸ hgains) hmade (hworld ▸ hfound)

theorem Chase.next (hchase : Chase g d first t) : Chase g d first (t.next lexicon) := by
  cases hchase with
  | searching hsole hunplanned hsound hhonest hgains hmade hfound =>
      exact chase_of_search hkind hcondition howner hposition hsole hunplanned hsound hhonest hgains
        hmade hfound
  | reaching hsole hplan htakes hsound hready hgains hmade =>
      exact chase_of_ready hkind hcondition hsole howner (.inl hplan) htakes hsound hready hgains
        hmade
  | missing hsole hplan htakes hsound hmissed hhonest hgains hmade hfound =>
      exact chase_of_missed hkind hcondition hsole (.inl hplan) htakes hsound hmissed hhonest hgains
        hmade hfound
  | ended hidle hgains htaken hmade =>
      obtain ⟨hgoals, hworld⟩ := Ticked.tick_idle hidle lexicon
      refine .ended ?_ ?_ htaken hmade
      · rw [Ticked.next, hgoals, hidle]
      · rw [Ticked.next, hworld]
        exact hgains

theorem Chase.after (hchase : Chase g d first t) (n : Nat) :
    Chase g d first (t.after lexicon n) := by
  induction n generalizing t with
  | zero => exact hchase
  | succ n ih => exact ih (hchase.next hkind hcondition howner hposition)

end

/-- However many ticks pass, a goal to have something that is the only active one takes at most one
object and makes at most one, if its description reads neither the owner nor the position, every
object is found under its own name, and no plan is left over from before. -/
theorem Goal.acquires_once (hreachable : w.Reachable) (hnames : w.WellNamed)
    (hkind : g.kind = .achievePossession) (hcondition : g.condition = .verifyPossession .agent d)
    (lexicon : Lexicon) (howner : (d.withCurrentMeanings lexicon).reads .owner = false)
    (hposition : (d.withCurrentMeanings lexicon).reads .position = false) (hworld : t.world = w)
    (hsole : g.Sole t.goals) (hunplanned : t.scheduler.plans.contains g.id = false) (n : Nat) :
    ∃ news, (t.after lexicon n).world.events = w.events ++ news ∧
      news.countP Event.isTaking ≤ 1 ∧ news.countP Event.isCreation ≤ 1 := by
  subst hworld
  have hcurrent : g.condition.withCurrentMeanings lexicon =
      .verifyPossession .agent (d.withCurrentMeanings lexicon) := by
    rw [hcondition]
    rfl
  have hchase : Chase g (d.withCurrentMeanings lexicon) t.world t :=
    .searching hsole hunplanned hreachable.sound (hnames.honest _) (World.gains_refl t.world)
      (Nat.zero_le 1) (by simp)
  obtain ⟨taken, made, ⟨news, hnews, rfl, rfl⟩, htaken, hmade⟩ :=
    (hchase.after hkind hcurrent howner hposition n).gains
  exact ⟨news, hnews, htaken, hmade⟩

/-! ### Runs of one goal -/

def Goal.toHave (root : Expr) (source : String) : Goal :=
  ⟨1, "to have it", .achievePossession, none,
    .verifyPossession .agent ⟨[[⟨"wanted", false, ⟨.unary, root, source⟩⟩]]⟩, .active, 0⟩

def Goal.alone (g : Goal) (plans : List Plan) (w : World) : Ticked :=
  ⟨⟨0, []⟩, ⟨⟨plans⟩, 0⟩, ⟨[g]⟩, w⟩

def Goal.takings (g : Goal) (plans : List Plan) (w : World) (n : Nat) : Nat :=
  ((g.alone plans w).after .empty n).world.events.countP Event.isTaking

def Goal.creations (g : Goal) (plans : List Plan) (w : World) (n : Nat) : Nat :=
  ((g.alone plans w).after .empty n).world.events.countP Event.isCreation

theorem Goal.sole_alone (root : Expr) (source : String) (plans : List Plan) (w : World) :
    (toHave root source).Sole ((toHave root source).alone plans w).goals :=
  ⟨rfl, rfl⟩

/-- A ball is lifted out of a box and taken, and the other ball stays there, for ten ticks. -/
theorem Goal.acquires_once_ball :
    let g := Goal.toHave (.binary .eq (.attr .obj .shape) (.literal (.str "ball")))
      "obj.shape == 'ball'"
    ∃ w, (World.new 3 1).run [.create {}, .create { shape := some "ball" },
        .create { shape := some "ball" }, .putInto 3 1, .putInto 2 1] = some w ∧
      g.takings [] w 10 = 1 ∧
      ∃ news, ((g.alone [] w).after .empty 10).world.events = w.events ++ news ∧
        news.countP Event.isTaking ≤ 1 ∧ news.countP Event.isCreation ≤ 1 := by
  intro g
  have hends : ((World.new 3 1).run [.create {}, .create { shape := some "ball" },
      .create { shape := some "ball" }, .putInto 3 1, .putInto 2 1]).map
        (fun w => (w.objects.all fun o => w.named? o.name = some o, g.takings [] w 10)) =
          some (true, 1) := by
    decide +kernel
  obtain ⟨w, hrun, hw⟩ := Option.map_eq_some_iff.mp hends
  obtain ⟨hnames, htakings⟩ := Prod.mk.inj hw
  have hnames : w.WellNamed := fun o ho => by simpa using List.all_eq_true.mp hnames o ho
  exact ⟨w, hrun, htakings, Goal.acquires_once ⟨3, 1, _, hrun⟩ hnames rfl rfl .empty
    (by decide +kernel) (by decide +kernel) rfl (Goal.sole_alone _ _ [] w) rfl 10⟩

/-- Whether a goal that is alone takes two objects or makes two in a number of ticks. -/
def Goal.Overreaches (g : Goal) (plans : List Plan) (w : World) (n : Nat) : Prop :=
  g.Sole (g.alone plans w).goals ∧
    (w.events.countP Event.isTaking + 2 ≤ g.takings plans w n ∨
      w.events.countP Event.isCreation + 2 ≤ g.creations plans w n)

theorem Goal.overreaches_of_run {width height : UInt32} {ops : List World.Operation} {root : Expr}
    {source : String} {plans : List Plan} {n : Nat}
    (hrun : ((World.new width height).run ops).any (fun w => decide
      (w.events.countP Event.isTaking + 2 ≤ (toHave root source).takings plans w n ∨
        w.events.countP Event.isCreation + 2 ≤ (toHave root source).creations plans w n)) = true) :
    ∃ w, (World.new width height).run ops = some w ∧ (toHave root source).Overreaches plans w n := by
  cases hw : (World.new width height).run ops with
  | none =>
      rw [hw] at hrun
      cases hrun
  | some w =>
      rw [hw] at hrun
      exact ⟨w, rfl, sole_alone root source plans w, of_decide_eq_true hrun⟩

/-- Each of the conditions is needed. A goal takes two objects if what it asks for is that an object
belongs to nobody, or that it is in a container; if an object has a blank before its name, and what
it is taken for has the name without the blank; or if it still has a plan for something else. And if
it asks for what belongs to the user, it makes one object after the other. -/
theorem Goal.acquires_twice :
    (∃ w, (World.new 2 1).run [.create {}, .create {}] = some w ∧
      (toHave (.binary .eq (.attr .obj .owner) (.literal (.str "world")))
        "obj.owner == 'world'").Overreaches [] w 2) ∧
    (∃ w, (World.new 2 1).run [] = some w ∧
      (toHave (.binary .eq (.attr .obj .owner) (.literal (.str "user")))
        "obj.owner == 'user'").Overreaches [] w 4) ∧
    (∃ w, (World.new 3 1).run
        [.create {}, .create {}, .create {}, .putInto 2 1, .putInto 3 1] = some w ∧
      (toHave (.binary .eq (.attr .obj .position) (.literal .null))
        "obj.position == None").Overreaches [] w 4) ∧
    (∃ w, (World.new 5 1).run
        [.create { shape := some "ball" }, .create { name := some " k", shape := some "ball" },
          .create { name := some "k" }, .create {}, .create {}, .putInto 1 3, .putInto 3 4,
          .putInto 2 5] = some w ∧
      (toHave (.binary .eq (.attr .obj .shape) (.literal (.str "ball")))
        "obj.shape == 'ball'").Overreaches [] w 4) ∧
    ∃ w, (World.new 2 1).run [.create {}, .create { shape := some "ball" }] = some w ∧
      (toHave (.binary .eq (.attr .obj .shape) (.literal (.str "ball")))
        "obj.shape == 'ball'").Overreaches
          [{ goal := 1, steps := [.take (.named "object_1")], strategy := "take existing" }] w 2 := by
  refine ⟨?_, ?_, ?_, ?_, ?_⟩
  · exact overreaches_of_run (by decide +kernel)
  · exact overreaches_of_run (by decide +kernel)
  · exact overreaches_of_run (by decide +kernel)
  · exact overreaches_of_run (by decide +kernel)
  · exact overreaches_of_run (by decide +kernel)

end Apprentice
