import Apprentice.Proofs.Goal.Existence
import Apprentice.Proofs.Goal.Possession
import Mathlib.Data.Prod.Lex

/-!
# The choice of a plan

A goal to have something has three ways to go on. Nothing is left to do exactly if its condition
holds; else an object that nobody owns is taken, of all that fit the one with the fewest containers
around it, and of several the oldest; else an object is made, under a name that no object is found
under. Main statement: in every world that can be reached, plans are chosen so, and those for goals
that something exists likewise.
-/

namespace Apprentice

variable {w : World} {lexicon : Lexicon} {d : Description} {g : Goal} {o : Object} {name : String}

/-! ### What is taken -/

/-- Where an object stands among those that could be taken: those with few containers around them
come first, and then the older ones. -/
def World.rank (w : World) (o : Object) : Nat ×ₗ ObjectId :=
  toLex (w.depth o.id, o.id)

theorem rank_nearer_le (w : World) (a b : Object) :
    w.rank (nearer w a b) ≤ w.rank a ∧ w.rank (nearer w a b) ≤ w.rank b := by
  rw [nearer]
  split
  next hcloser => exact ⟨(Prod.Lex.toLex_lt_toLex.mpr hcloser).le, le_rfl⟩
  next hfarther =>
    exact ⟨le_rfl, not_lt.mp fun hlt => hfarther (Prod.Lex.toLex_lt_toLex.mp hlt)⟩

theorem rank_foldl_nearer_le (w : World) (o : Object) (os : List Object) :
    ∀ other ∈ o :: os, w.rank (os.foldl (nearer w) o) ≤ w.rank other := by
  induction os generalizing o with
  | nil => exact List.forall_mem_singleton.mpr le_rfl
  | cons next os ih =>
      obtain ⟨hfirst, hsecond⟩ := rank_nearer_le w o next
      have hbest := ih (nearer w o next) _ List.mem_cons_self
      refine List.forall_mem_cons.mpr ⟨hbest.trans hfirst,
        List.forall_mem_cons.mpr ⟨hbest.trans hsecond, fun other hother => ?_⟩⟩
      exact ih (nearer w o next) other (List.mem_cons_of_mem _ hother)

theorem rank_le_of_nearest? {os : List Object} (hnearest : nearest? w os = some o) :
    ∀ other ∈ os, w.rank o ≤ w.rank other := by
  cases os with
  | nil => cases hnearest
  | cons first os =>
      cases hnearest
      exact rank_foldl_nearer_le w first os

/-- An object is the one to take. -/
structure World.Prefers (w : World) (d : Description) (o : Object) : Prop where
  wanted : o ∈ w.wanted d
  first : ∀ other ∈ w.wanted d, w.rank o ≤ w.rank other

/-- The steps by which an object is taken. -/
inductive World.TakenBy (w : World) (o : Object) : List Action → Prop
  | openly (hopen : w.containerOf? o.id = none) : TakenBy w o [.take (.named o.name)]
  | inside {container : Object} (hlive : container ∈ w.objects)
      (hcontainer : w.containerOf? o.id = some container.id) :
      TakenBy w o [.retrieveFromContainer o.name container.name, .take (.named o.name)]

theorem acquisitionPlan_takenBy (hsound : w.Sound) (g : Goal) (o : Object) :
    w.TakenBy o (acquisitionPlan g o w).steps := by
  rw [acquisitionPlan]
  cases hcontainer : w.containerOf? o.id with
  | none => exact .openly hcontainer
  | some id =>
      obtain ⟨container, hfind⟩ := World.contains_iff.mp (hsound.forest.live hcontainer).2
      rw [Option.bind_some, hfind]
      obtain rfl := World.id_of_find? hfind
      exact .inside (World.mem_of_find? hfind) hcontainer

/-! ### What is made -/

/-- A name for a new object. -/
structure World.Spares (w : World) (d : Description) (name : String) : Prop where
  /-- No object is found under the name. -/
  unfound : w.named? name = none
  /-- An object can have the name only where it is not found under it. -/
  blank : ∀ o ∈ w.objects, o.name = name → Text.trim name.toList ≠ name.toList
  /-- No object has the name, if it is made of words as they are taught. -/
  unused : (∀ terms ∈ d.alternatives, ∀ t ∈ terms, ∀ c ∈ t.word.toList, Text.isBlank c = false) →
    ∀ o ∈ w.objects, o.name ≠ name

theorem World.trim_ne_of_named? (hnamed : w.named? name = none) (ho : o ∈ w.objects)
    (hname : o.name = name) : Text.trim name.toList ≠ name.toList := by
  intro htrim
  refine World.named?_eq_none.mp hnamed (List.mem_map.mpr ⟨o, ho, ?_⟩)
  rw [World.nameKey_of_trim htrim, hname]

theorem spares_freshName (d : Description) (w : World) : w.Spares d (freshName d w) := by
  obtain ⟨-, -, -, -, hunfound, -⟩ := freshName_spec d w
  refine ⟨hunfound, fun o => World.trim_ne_of_named? hunfound, fun hwords o ho hname => ?_⟩
  exact World.trim_ne_of_named? hunfound ho hname (trim_freshName hwords w)

/-! ### Plans -/

namespace Goal

/-- Whether the check of a goal finds that it is achieved. -/
def isAchieved (g : Goal) (lexicon : Lexicon) (w : World) : Bool :=
  (g.condition.execute lexicon w).1.result.isTruthy

def steps (g : Goal) (lexicon : Lexicon) (w : World) : Except PlanningError (List Action) :=
  (g.plan lexicon w).map Plan.steps

def making (g : Goal) (attempt : Except Unsatisfiable Blueprint) (steps : List Action) :
    Except PlanningError (List Action) :=
  match attempt with
  | .ok _ => .ok steps
  | .error cause => .error ⟨g.id, .unsatisfiable cause⟩

theorem isAchieved_possession (hcondition : g.condition = .verifyPossession .agent d)
    (lexicon : Lexicon) (w : World) : g.isAchieved lexicon w = w.holds d := by
  let p : Progress := ⟨{}, {}, w, []⟩
  have hcheck : p.checkCondition (.verifyPossession .agent d) lexicon = (w.holds d, p) :=
    Progress.checkCondition_possession
  rw [isAchieved, hcondition]
  exact congrArg Prod.fst hcheck

theorem isAchieved_existence (hcondition : g.condition = .verifyExistence d)
    (lexicon : Lexicon) (w : World) :
    g.isAchieved lexicon w = !(w.filter d.fits).isEmpty := by
  let p : Progress := ⟨{}, {}, w, []⟩
  have hcheck : p.checkCondition (.verifyExistence d) lexicon =
      (!(w.filter d.fits).isEmpty, p) :=
    Progress.checkCondition_existence
  rw [isAchieved, hcondition]
  exact congrArg Prod.fst hcheck

theorem making_ne_ok_nil {attempt : Except Unsatisfiable Blueprint} {steps : List Action}
    (hsteps : steps ≠ []) : g.making attempt steps ≠ .ok [] := by
  cases attempt with
  | ok blueprint => exact fun hnil => hsteps (Except.ok.inj hnil)
  | error cause => exact nofun

end Goal

theorem World.TakenBy.ne_nil {steps : List Action} (htaken : w.TakenBy o steps) : steps ≠ [] := by
  cases htaken <;> exact List.cons_ne_nil _ _

theorem possessionPlan_held (hheld : w.holds d = true) (g : Goal) :
    (possessionPlan g d w).map Plan.steps = .ok [] := by
  rw [World.holds] at hheld
  rw [possessionPlan, if_pos hheld]
  rfl

theorem possessionPlan_taking (hsound : w.Sound) (hheld : w.holds d = false)
    (hwanted : w.wanted d ≠ []) (g : Goal) :
    ∃ o steps, w.Prefers d o ∧ w.TakenBy o steps ∧
      (possessionPlan g d w).map Plan.steps = .ok steps := by
  cases hnearest : nearest? w (w.wanted d) with
  | none => exact absurd (nearest?_eq_none.mp hnearest) hwanted
  | some o =>
      refine ⟨o, _, ⟨mem_of_nearest? hnearest, rank_le_of_nearest? hnearest⟩,
        acquisitionPlan_takenBy hsound g o, ?_⟩
      rw [World.holds] at hheld
      rw [World.wanted] at hnearest
      rw [possessionPlan, if_neg (by rw [hheld]; exact Bool.false_ne_true), hnearest]
      rfl

theorem possessionPlan_making (hheld : w.holds d = false) (hwanted : w.wanted d = []) (g : Goal) :
    (possessionPlan g d w).map Plan.steps = g.making (d.synthesize (some (freshName d w)))
      [.create d (some (freshName d w)), .take (.named (freshName d w))] := by
  rw [World.holds] at hheld
  rw [World.wanted] at hwanted
  rw [possessionPlan, if_neg (by rw [hheld]; exact Bool.false_ne_true), hwanted]
  dsimp only [nearest?]
  cases d.synthesize (some (freshName d w)) <;> rfl

theorem existencePlan_steps (g : Goal) (d : Description) (w : World) :
    (existencePlan g d w).map Plan.steps =
      if (w.filter d.fits).isEmpty then g.making (d.synthesize none) [.create d none]
      else .ok [] := by
  rw [existencePlan]
  cases (w.filter d.fits).isEmpty with
  | true => cases d.synthesize none <;> rfl
  | false => rfl

/-- A plan has no steps exactly if the goal is achieved. Otherwise, to have something, the preferred
one of the objects that fit and belong to nobody is taken, out of its container first if it lies in
one; if there is none, an object is made under a spare name and taken. For something to exist, it is
made. -/
theorem Goal.steps_chosen (hreachable : w.Reachable) (lexicon : Lexicon) (g : Goal)
    (d : Description) :
    (g.kind = .achievePossession → g.condition = .verifyPossession .agent d →
      (g.steps lexicon w = .ok [] ↔ g.isAchieved lexicon w = true) ∧
      (g.isAchieved lexicon w = false →
        (w.wanted d ≠ [] → ∃ o steps, w.Prefers d o ∧ w.TakenBy o steps ∧
          g.steps lexicon w = .ok steps) ∧
        (w.wanted d = [] → ∃ name, w.Spares d name ∧
          g.steps lexicon w = g.making (d.synthesize (some name))
            [.create d (some name), .take (.named name)]))) ∧
    (g.kind = .achieveExistence → g.condition = .verifyExistence d →
      (g.steps lexicon w = .ok [] ↔ g.isAchieved lexicon w = true) ∧
      (g.isAchieved lexicon w = false →
        g.steps lexicon w = g.making (d.synthesize none) [.create d none])) := by
  refine ⟨fun hkind hcondition => ?_, fun hkind hcondition => ?_⟩
  · rw [isAchieved_possession hcondition, steps, plan_possession hkind hcondition]
    have htaking := possessionPlan_taking hreachable.sound (d := d) (g := g)
    have hmaking := possessionPlan_making (w := w) (d := d) (g := g)
    refine ⟨⟨fun hnil => ?_, fun hheld => possessionPlan_held hheld g⟩, fun hheld =>
      ⟨htaking hheld, fun hwanted => ⟨_, spares_freshName d w, hmaking hheld hwanted⟩⟩⟩
    by_contra hheld
    rw [Bool.not_eq_true] at hheld
    by_cases hwanted : w.wanted d = []
    · rw [hmaking hheld hwanted] at hnil
      exact making_ne_ok_nil (List.cons_ne_nil _ _) hnil
    · obtain ⟨o, steps, -, htaken, hsteps⟩ := htaking hheld hwanted
      exact htaken.ne_nil (Except.ok.inj (hsteps.symm.trans hnil))
  · rw [isAchieved_existence hcondition, steps, plan_existence hkind hcondition,
      existencePlan_steps]
    cases (w.filter d.fits).isEmpty with
    | true => exact ⟨by simp [making_ne_ok_nil], fun _ => rfl⟩
    | false => exact ⟨by simp, nofun⟩

/-- The red thing in the chest is to be taken out of it, and something blue is to be made. -/
theorem Goal.steps_chosen_chest :
    let hue (color source : String) : Description :=
      ⟨[[⟨color, false,
        ⟨.unary, .binary .eq (.attr .obj .color) (.literal (.str color)), source⟩⟩]]⟩
    let red := hue "red" "obj.color == 'red'"
    let blue := hue "blue" "obj.color == 'blue'"
    let g : Goal := ⟨1, "I have a red", .achievePossession, none, .verifyPossession .agent red,
      .active, 0⟩
    let other : Goal := ⟨2, "there is a blue", .achieveExistence, none, .verifyExistence blue,
      .active, 0⟩
    ∃ w : World, w.Reachable ∧ g.isAchieved .empty w = false ∧ w.wanted red ≠ [] ∧
      (∃ o steps, w.Prefers red o ∧ w.TakenBy o steps ∧ g.steps .empty w = .ok steps) ∧
      other.isAchieved .empty w = false ∧
      other.steps .empty w = other.making (blue.synthesize none) [.create blue none] := by
  intro hue red blue g other
  let w : World := (((World.new 2 1).perform (.create { name := some "chest" })).perform
    (.create { color := some "red" })).perform (.putInto 2 1)
  have hreachable : w.Reachable :=
    ⟨2, 1, [.create { name := some "chest" }, .create { color := some "red" }, .putInto 2 1], rfl⟩
  have hmissing : g.isAchieved .empty w = false := by decide +kernel
  have hwanted : w.wanted red ≠ [] := by decide +kernel
  have hnone : other.isAchieved .empty w = false := by decide +kernel
  exact ⟨w, hreachable, hmissing, hwanted,
    ((Goal.steps_chosen hreachable .empty g red).1 rfl rfl).2 hmissing |>.1 hwanted, hnone,
    ((Goal.steps_chosen hreachable .empty other blue).2 rfl rfl).2 hnone⟩

/-- A word with a blank in front of it gives a name that is in use, as an object with such a name is
not found under it. -/
example :
    let red : Term := ⟨" red", false,
      ⟨.unary, .binary .eq (.attr .obj .color) (.literal (.str "red")), "obj.color == 'red'"⟩⟩
    let w := (World.new 2 1).perform (.create { name := some " red_1" })
    freshName ⟨[[red]]⟩ w = " red_1" ∧ w.objects.map Object.name = [" red_1"] := by
  decide +kernel

end Apprentice
