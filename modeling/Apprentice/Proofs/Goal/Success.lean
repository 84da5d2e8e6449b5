import Apprentice.Proofs.Goal.Acquisition
import Apprentice.Proofs.Utterance.Goal

/-!
# Having something, in two ticks

A goal to have something that was read from a statement is achieved by the first plan that is made
for it, if there is room in the grid and every object answers to its name. One step is carried out
in every tick and none of them misses: what the first one lifts out or makes is what the second one
finds under the name that the plan gives, still fitting and belonging to nobody. All other objects
are left alone.
-/

namespace Apprentice

variable {w next : World} {lexicon : Lexicon} {d : Description} {g : Goal} {plan : Plan}
  {t : Ticked} {o : Object} {name : String}

/-- Whether no object was changed, moved or made but the one that the last step of a plan takes. -/
def World.ChangedFor (plan : Plan) (w next : World) : Prop :=
  ∀ x, next.find? x ≠ w.find? x ∨ next.containerOf? x ≠ w.containerOf? x →
    ∃ name o, plan.steps.getLast? = some (.take (.named name)) ∧
      next.named? name = some o ∧ o.id = x

theorem World.changedFor_refl (plan : Plan) (w : World) : w.ChangedFor plan w := by
  rintro x (hfind | hcontainer)
  · exact absurd rfl hfind
  · exact absurd rfl hcontainer

theorem World.AgreeOff.changedFor (hagree : AgreeOff o.id w next)
    (htakes : plan.steps.getLast? = some (.take (.named name)))
    (hnamed : next.named? name = some o) : w.ChangedFor plan next := by
  intro x hchanged
  refine ⟨name, o, htakes, hnamed, ?_⟩
  by_contra hx
  obtain ⟨hfind, hcontainer⟩ := hagree x (Ne.symm hx)
  rcases hchanged with hnot | hnot
  · exact hnot hfind
  · exact hnot hcontainer

def StepOutcome.isMiss (outcome : StepOutcome) : Bool :=
  match outcome.result with
  | .miss _ => true
  | _ => false

/-- Whether a goal is achieved within a number of ticks by a plan without misses, which concerns
only the object that it takes. -/
structure Achieves (lexicon : Lexicon) (g : Goal) (d : Description) (plan : Plan) (t : Ticked)
    (n : Nat) : Prop where
  completed : ((t.after lexicon n).goals.get? g.id).map Goal.status = some .completed
  holds : (t.after lexicon n).world.holds d = true
  hits : ∀ k < n, ∀ outcome ∈ executedOf (t.after lexicon (k + 1)).report.events,
    outcome.isMiss = false
  changed : ∀ k ≤ n, t.world.ChangedFor plan (t.after lexicon k).world

theorem achieves_one
    (hcompleted : ((t.next lexicon).goals.get? g.id).map Goal.status = some .completed)
    (hholds : (t.next lexicon).world.holds d = true)
    (hhits : ∀ outcome ∈ executedOf (t.next lexicon).report.events, outcome.isMiss = false)
    (hchanged : t.world.ChangedFor plan (t.next lexicon).world) :
    Achieves lexicon g d plan t 1 where
  completed := hcompleted
  holds := hholds
  hits := by
    intro k hk
    obtain rfl := Nat.lt_one_iff.mp hk
    exact hhits
  changed := by
    intro k hk
    rcases Nat.le_one_iff_eq_zero_or_eq_one.mp hk with rfl | rfl
    · exact World.changedFor_refl plan t.world
    · exact hchanged

theorem achieves_two
    (hhits : ∀ outcome ∈ executedOf (t.next lexicon).report.events, outcome.isMiss = false)
    (hchanged : t.world.ChangedFor plan (t.next lexicon).world)
    (hcompleted : (((t.next lexicon).next lexicon).goals.get? g.id).map Goal.status =
      some .completed)
    (hholds : ((t.next lexicon).next lexicon).world.holds d = true)
    (hhits' : ∀ outcome ∈ executedOf ((t.next lexicon).next lexicon).report.events,
      outcome.isMiss = false)
    (hchanged' : t.world.ChangedFor plan ((t.next lexicon).next lexicon).world) :
    Achieves lexicon g d plan t 2 where
  completed := hcompleted
  holds := hholds
  hits := by
    intro k hk
    rcases Nat.le_one_iff_eq_zero_or_eq_one.mp (Nat.le_of_lt_succ hk) with rfl | rfl
    · exact hhits
    · exact hhits'
  changed := by
    intro k hk
    rcases Nat.le_succ_iff.mp hk with hk | rfl
    · rcases Nat.le_one_iff_eq_zero_or_eq_one.mp hk with rfl | rfl
      · exact World.changedFor_refl plan t.world
      · exact hchanged
    · exact hchanged'

theorem World.Ready.named?_handOver (hready : w.Ready d name o) (owner : Owner) :
    (w.handOver o owner).named? name = some { o with owner := owner } := by
  rw [World.named?_handOver, hready.named, Option.map_some, if_pos (beq_self_eq_true _)]

section

variable (hkind : g.kind = .achievePossession)
  (hcondition : g.condition.withCurrentMeanings lexicon = .verifyPossession .agent d)
  (howner : d.reads .owner = false)

include hkind hcondition howner

theorem achieves_of_ready (hsole : g.Sole t.goals) (hfollows : t.Follows g d plan)
    (htakes : plan.LastTakes name) (hlast : plan.steps.getLast? = some (.take (.named name)))
    (hsound : t.world.Sound) (hready : t.world.Ready d name o) :
    Achieves lexicon g d plan t 1 := by
  obtain ⟨hworld, hexecuted, -, hcompleted⟩ := Ticked.next_takes hsole hkind hcondition howner
    hfollows htakes hsound hready
  refine achieves_one hcompleted ?_ ?_ ?_
  · rw [hworld]
    exact hready.holds_handOver howner
  · rw [hexecuted]
    exact List.forall_mem_singleton.mpr rfl
  · rw [hworld]
    exact World.AgreeOff.changedFor (o := { o with owner := .agent })
      (World.agreeOff_handOver t.world o .agent) hlast (hready.named?_handOver .agent)

/-- A plan whose first step makes something ready, and whose second step takes it, achieves the goal
by them. -/
theorem achieves_of_first_step (outcome : StepOutcome) (next : World) (hsole : g.Sole t.goals)
    (hfollows : t.Follows g d plan) (honce : plan.repeatable = false)
    (htakes : plan.advance.LastTakes name)
    (hlast : plan.steps.getLast? = some (.take (.named name)))
    (hcarried : plan.carryOut lexicon t.world = ([outcome], next)) (hhit : outcome.isMiss = false)
    (hsound : next.Sound) (hready : next.Ready d name o)
    (hagree : World.AgreeOff o.id t.world next) :
    ∃ n, n ≤ 2 ∧ Achieves lexicon g d plan t n := by
  obtain ⟨hworld, hexecuted, hfollowed⟩ := Ticked.next_followed hsole hkind hcondition hfollows honce
  rw [hcarried] at hworld hexecuted hfollowed
  have hhits : ∀ outcome ∈ executedOf (t.next lexicon).report.events, outcome.isMiss = false := by
    rw [hexecuted]
    exact List.forall_mem_singleton.mpr hhit
  have hchanged : t.world.ChangedFor plan (t.next lexicon).world := by
    rw [hworld]
    exact World.AgreeOff.changedFor (o := o) hagree hlast hready.named
  have hleft := Plan.not_exhausted_of_next htakes.next
  cases hfollowed with
  | achieved hheld _ hcompleted =>
      exact ⟨1, by decide, achieves_one hcompleted (hworld ▸ hheld) hhits hchanged⟩
  | goesOn _ _ hsole' hplan =>
      have hsound' : (t.next lexicon).world.Sound := hworld ▸ hsound.advanceClock
      have hready' : (t.next lexicon).world.Ready d name o := hworld ▸ hready.advanceClock
      obtain ⟨hworld', hexecuted', -, hcompleted⟩ := Ticked.next_takes hsole' hkind hcondition
        howner (.inl hplan) htakes hsound' hready'
      refine ⟨2, Nat.le_refl 2, achieves_two hhits hchanged hcompleted ?_ ?_ ?_⟩
      · rw [hworld']
        exact hready'.holds_handOver howner
      · rw [hexecuted']
        exact List.forall_mem_singleton.mpr rfl
      · rw [hworld']
        have hagree' : World.AgreeOff o.id t.world (t.next lexicon).world := hworld ▸ hagree
        exact World.AgreeOff.changedFor (o := { o with owner := .agent })
          (hagree'.trans (World.agreeOff_handOver _ o .agent)) hlast (hready'.named?_handOver .agent)
  | startsOver _ hexhausted => cases hleft.symm.trans hexhausted
  | givenUp _ hexhausted => cases hleft.symm.trans hexhausted

end

/-! ### The plan of a goal that was stated -/

theorem Term.withCurrentMeaning_word (lexicon : Lexicon) (term : Term) :
    (term.withCurrentMeaning lexicon).word = term.word := by
  rw [withCurrentMeaning]
  split <;> rfl

theorem Description.forall_word_withCurrentMeanings {P : String → Prop}
    (hwords : ∀ terms ∈ d.alternatives, ∀ term ∈ terms, P term.word) (lexicon : Lexicon) :
    ∀ terms ∈ (d.withCurrentMeanings lexicon).alternatives, ∀ term ∈ terms, P term.word := by
  intro terms hterms term hterm
  obtain ⟨original, horiginal, rfl⟩ := List.mem_map.mp hterms
  obtain ⟨before, hbefore, rfl⟩ := List.mem_map.mp hterm
  rw [Term.withCurrentMeaning_word]
  exact hwords original horiginal before hbefore

/-- What is made under a fresh name without blanks can be taken under that name. -/
theorem World.ready_withNew (hsound : w.Sound) (howner : d.reads .owner = false)
    (hposition : d.reads .position = false) {blueprint : Blueprint} {cell : Cell}
    (htrim : Text.trim name.toList = name.toList) (hunused : w.named? name = none)
    (hsynthesize : d.synthesize (some name) = .ok blueprint) (hfree : w.freeCell? = some cell) :
    (w.withNew blueprint cell).Ready d name (w.newObject blueprint cell) := by
  obtain ⟨hfits, hnobody, hcalled⟩ := fits_newObject howner hposition hsynthesize hfree
  refine ⟨?_, hnobody, hsound.numbered.containerOf?_nextId hsound.forest, hfits⟩
  rw [named?_withNew hunused, if_pos]
  rw [hcalled, nameKey_of_trim htrim]

/-- Each way of having something comes to an end after two ticks at most. -/
theorem achieves_of_approach (hkind : g.kind = .achievePossession)
    (hcondition : g.condition.withCurrentMeanings lexicon = .verifyPossession .agent d)
    (howner : d.reads .owner = false) (hposition : d.reads .position = false)
    (hwords : ∀ terms ∈ d.alternatives, ∀ term ∈ terms,
      ∀ c ∈ term.word.toList, Text.isBlank c = false)
    (hsole : g.Sole t.goals) (hunplanned : t.scheduler.plans.contains g.id = false)
    (hsound : t.world.Sound) (hnames : t.world.WellNamed) {cell : Cell}
    (hfree : t.world.freeCell? = some cell) (hplan : possessionPlan g d t.world = .ok plan) :
    ∃ n, n ≤ 2 ∧ Achieves lexicon g d plan t n := by
  have happroach := approach hsound g d
  rw [hplan] at happroach
  cases happroach with
  | held hheld =>
      obtain ⟨hworld, hexecuted, hfollowed⟩ := Ticked.next_followed hsole hkind hcondition
        (.inr ⟨hunplanned, hplan, rfl⟩) rfl
      cases hfollowed with
      | achieved _ _ hcompleted =>
          refine ⟨1, by decide, achieves_one hcompleted ?_ ?_ ?_⟩
          · rw [hworld]
            exact hheld
          · rw [hexecuted]
            exact List.forall_mem_nil _
          · rw [hworld]
            exact World.changedFor_refl _ t.world
      | goesOn hnot => cases hheld.symm.trans hnot
      | startsOver hnot => cases hheld.symm.trans hnot
      | givenUp hnot => cases hheld.symm.trans hnot
  | openly _ ho hopen =>
      obtain ⟨hmem, hfits, hnobody⟩ := World.mem_wanted.mp ho
      exact ⟨1, by decide, achieves_of_ready hkind hcondition howner hsole
        (.inr ⟨hunplanned, hplan, rfl⟩) ⟨rfl, rfl, rfl⟩ rfl hsound
        ⟨hnames _ hmem, hnobody, hopen, hfits⟩⟩
  | @inside o container _ ho hcontainer =>
      obtain ⟨hmem, -, -⟩ := World.mem_wanted.mp ho
      have hnamed := hnames o hmem
      have hfind := World.find?_of_mem hsound.numbered.nodup hmem
      refine achieves_of_first_step hkind hcondition howner
        ⟨"I got " ++ o.name ++ " out of " ++ t.world.nameOf container.id ++ ".", .object o.id⟩
        (t.world.liftOut o container.id cell) hsole (.inr ⟨hunplanned, hplan, rfl⟩) rfl
        ⟨rfl, rfl, rfl⟩ rfl ?_ rfl
        (hsound.liftOut hfind hcontainer hfree) (World.ready_liftOut hposition ho hnamed)
        (World.agreeOff_liftOut t.world o container.id cell)
      change ([((Action.retrieveFromContainer o.name container.name).execute lexicon t.world).1],
        ((Action.retrieveFromContainer o.name container.name).execute lexicon t.world).2) = _
      rw [Action.execute_retrieve hsound hnamed hcontainer hfree]
  | @making blueprint _ _ hsynthesize =>
      obtain ⟨_, -, -, -, hunused, -⟩ := freshName_spec d t.world
      have htrim := trim_freshName hwords t.world
      have hname := d.name_of_synthesize hsynthesize
      refine achieves_of_first_step hkind hcondition howner
        ⟨"Created " ++ (t.world.withNew blueprint cell).nameOf t.world.nextId ++ " (" ++ d.phrase ++
          ").", .created t.world.nextId⟩
        (t.world.withNew blueprint cell) hsole (.inr ⟨hunplanned, hplan, rfl⟩) rfl
        ⟨rfl, rfl, rfl⟩ rfl ?_ rfl
        (hsound.withNew hname hunused hfree)
        (World.ready_withNew hsound howner hposition htrim hunused hsynthesize hfree)
        (World.agreeOff_withNew hsound blueprint cell)
      change ([((Action.create d (some (freshName d t.world))).execute lexicon t.world).1],
        ((Action.create d (some (freshName d t.world))).execute lexicon t.world).2) = _
      rw [Action.execute_create_unused hsynthesize hname hunused hfree]

/-- The plan that is made for a goal to have something achieves the goal within two ticks, without a
miss and without a change to any other object, if the goal was read from a statement, its
description reads nothing but looks, there is room in the grid, and every object is found under its
own name. -/
theorem Goal.possession_succeeds (hreachable : w.Reachable) {cell : Cell}
    (hfree : w.freeCell? = some cell) (hnames : w.WellNamed) {text : String} {stated : Lexicon}
    {there : World} {request : Utterance.GoalRequest}
    (hread : Utterance.readGoal text stated there = .ok (.goal request))
    (hkind : request.kind = .achievePossession) (hgoalKind : g.kind = request.kind)
    (hgoalCondition : g.condition = request.condition) (hgoals : t.goals.Reachable)
    (hactive : t.goals.active = [g]) (hworld : t.world = w)
    (hunplanned : t.scheduler.plans.isEmpty = true) (lexicon : Lexicon)
    (hcondition : g.condition.withCurrentMeanings lexicon = .verifyPossession .agent d)
    (hlooks : ∀ field, d.reads field = true → field ∈ [.shape, .color, .size, .material])
    (hplan : ({ g with condition := g.condition.withCurrentMeanings lexicon } : Goal).plan lexicon w =
      .ok plan) :
    ∃ n, n ≤ 2 ∧ Achieves lexicon g d plan t n := by
  subst hworld
  obtain ⟨original, horiginal, hwords⟩ := Utterance.readGoal_possession hread hkind
  have hcurrent : d = original.withCurrentMeanings lexicon := by
    rw [hgoalCondition, horiginal] at hcondition
    exact (Action.verifyPossession.inj hcondition).2.symm
  have hunread : ∀ field, field ∉ [.shape, .color, .size, .material] → d.reads field = false :=
    fun field hfield => Bool.not_eq_true _ ▸ fun hreads => hfield (hlooks field hreads)
  rw [Goal.plan_possession (g := { g with condition := g.condition.withCurrentMeanings lexicon })
    (hgoalKind.trans hkind) hcondition] at hplan
  refine achieves_of_approach (hgoalKind.trans hkind) hcondition (hunread .owner (by decide))
    (hunread .position (by decide)) ?_ (Goal.sole_of_reachable hgoals hactive) ?_ hreachable.sound
    hnames hfree hplan
  · rw [hcurrent]
    exact Description.forall_word_withCurrentMeanings
      (P := fun word => ∀ c ∈ word.toList, Text.isBlank c = false) hwords lexicon
  · rw [PlanTable.contains, PlanTable.get?, List.isEmpty_iff.mp hunplanned]
    rfl

/-- A goal that was stated before there was anything is achieved by lifting a ball out of a box and
taking it. -/
theorem Goal.possession_succeeds_ball :
    let isBall : Predicate :=
      ⟨.unary, .binary .eq (.attr .obj .shape) (.literal (.str "ball")), "obj.shape == 'ball'"⟩
    let lexicon := Lexicon.empty.insert ⟨"ball", .noun, "obj.shape == 'ball'", .predicate isBall⟩
    let d := Description.conjunction [⟨"ball", false, isBall⟩]
    let request : Utterance.GoalRequest :=
      ⟨.achievePossession, "have a ball", .verifyPossession .agent d⟩
    let g : Goal := ⟨1, request.description, request.kind, none, request.condition, .active, 0⟩
    Utterance.readGoal "have a ball" lexicon (World.new 2 1) = .ok (.goal request) ∧
      ∃ w, (World.new 2 1).run [.create {}, .create { shape := some "ball" }, .putInto 2 1] =
          some w ∧
        ∃ plan, g.plan lexicon w = .ok plan ∧ plan.kinds = [.retrieveFromContainer, .take] ∧
          ∃ n, n ≤ 2 ∧ Achieves lexicon g d plan (g.alone [] w) n := by
  intro isBall lexicon d request g
  -- the recursion is on the length of what is left of the text, so it is unfolded by equations
  have hpieces : Utterance.piecesFrom 0 "have a ball".toList =
      [(0, ['h', 'a', 'v', 'e']), (5, ['a']), (7, ['b', 'a', 'l', 'l'])] := by
    simp [Utterance.piecesFrom, Utterance.isInnerChar, Text.isBlank, Text.byteLength, Char.utf8Size]
  have hwords : Utterance.splitWords "have a ball" =
      [⟨"have", ⟨0, 4⟩⟩, ⟨"a", ⟨5, 6⟩⟩, ⟨"ball", ⟨7, 11⟩⟩] := by
    rw [Utterance.splitWords, hpieces]
    decide +kernel
  have hread : Utterance.readGoal "have a ball" lexicon (World.new 2 1) = .ok (.goal request) := by
    rw [Utterance.readGoal, Utterance.tokenize, hwords]
    rfl
  have hends : ((World.new 2 1).run [.create {}, .create { shape := some "ball" },
      .putInto 2 1]).map (fun w => (w.freeCell?, w.objects.all fun o => w.named? o.name = some o,
        (g.plan lexicon w).toOption.map Plan.kinds)) =
          some (some ⟨1, 0⟩, true, some [.retrieveFromContainer, .take]) := by
    decide +kernel
  obtain ⟨w, hrun, hw⟩ := Option.map_eq_some_iff.mp hends
  obtain ⟨hfree, hnamed⟩ := Prod.mk.inj hw
  obtain ⟨hnames, hkinds⟩ := Prod.mk.inj hnamed
  have hnames : w.WellNamed := fun o ho => by simpa using List.all_eq_true.mp hnames o ho
  obtain ⟨plan, hplan, hkinds⟩ := Option.map_eq_some_iff.mp hkinds
  have hplan : g.plan lexicon w = .ok plan := by
    cases hmade : g.plan lexicon w with
    | error e =>
        rw [hmade] at hplan
        cases hplan
    | ok made =>
        rw [hmade] at hplan
        rw [Option.some.inj hplan]
  have hgoals : (g.alone [] w).goals.Reachable :=
    .opened .empty request.kind request.description request.condition 0
  refine ⟨hread, w, hrun, plan, hplan, hkinds, ?_⟩
  have hknown : lexicon.get? "ball" =
      some ⟨"ball", .noun, "obj.shape == 'ball'", .predicate isBall⟩ := by
    rw [Lexicon.get?, show normalizeWord "ball" = "ball" by decide +kernel]
    rfl
  have hcurrent : g.condition.withCurrentMeanings lexicon = .verifyPossession .agent d := by
    change Action.verifyPossession .agent
      (.conjunction [Term.withCurrentMeaning lexicon ⟨"ball", false, isBall⟩]) = _
    rw [Term.withCurrentMeaning, hknown]
    rfl
  have hlooks : ∀ field, d.reads field = true → field ∈ [.shape, .color, .size, .material] := by
    intro field
    cases field <;> decide
  exact Goal.possession_succeeds ⟨2, 1, _, hrun⟩ hfree hnames hread rfl rfl rfl hgoals rfl rfl rfl
    lexicon hcurrent hlooks (hcurrent ▸ hplan)

end Apprentice
