import Apprentice.Action.Execution
import Apprentice.Proofs.Expr.Reads
import Apprentice.Proofs.Expr.Typing
import Apprentice.Proofs.World.Run

/-!
# What is made, and what was tried

A blueprint is tried on a candidate, and the world then makes another object of it: with an id of
its own, in a free cell, and with a name of its own if the blueprint gives none. In all other
attributes the two agree. So the object fits the description like the candidate did, unless a term
reads the cell or a name that was not given.
-/

namespace Apprentice

open Apprentice.Expr

/-- Every owner, cell and name apart, a blueprint settles what its objects are like. -/
theorem Blueprint.valueIn_build {blueprint : Blueprint} {id id' : ObjectId}
    {fallback fallback' : String} {cell cell' : Cell} {field : Attribute}
    (hposition : field = .position → cell = cell')
    (hname : field = .name → blueprint.name ≠ none) :
    field.valueIn (blueprint.build id fallback (some cell)) =
      field.valueIn (blueprint.build id' fallback' (some cell')) := by
  cases field with
  | position => rw [hposition rfl]; rfl
  | name =>
      obtain ⟨given, hgiven⟩ := Option.ne_none_iff_exists'.mp (hname rfl)
      simp [Attribute.valueIn, Blueprint.build, hgiven]
  | _ => rfl

/-! ### The candidate -/

theorem synthesizeConjunction_eq_ok {terms : List Term} {name : Option String}
    {blueprint : Blueprint} (hok : synthesizeConjunction terms name = .ok blueprint) :
    ∀ t ∈ terms, t.fits blueprint.candidate = true := by
  rw [synthesizeConjunction] at hok
  obtain ⟨requirements, -, hok⟩ := bind_eq_ok hok
  obtain ⟨made, -, hok⟩ := bind_eq_ok hok
  change (if _ then _ else _) = _ at hok
  split at hok
  next hnone =>
    cases hok
    intro t ht
    by_contra hfails
    have hmem : t ∈ terms.filter fun t => !t.fits blueprint.candidate :=
      List.mem_filter.mpr ⟨ht, by simpa using hfails⟩
    rw [List.isEmpty_iff.mp hnone] at hmem
    cases hmem
  next =>
    split at hok
    next => cases hok
    next => cases hok

theorem synthesizeFirst_eq_ok {alternatives : List (List Term)} {name : Option String}
    {blueprint : Blueprint} (hok : synthesizeFirst name alternatives = .ok blueprint) :
    ∃ terms ∈ alternatives, synthesizeConjunction terms name = .ok blueprint := by
  induction alternatives with
  | nil => cases hok
  | cons terms alternatives ih =>
      rw [synthesizeFirst] at hok
      split at hok
      next own hown =>
        cases hok
        exact ⟨terms, List.mem_cons_self, hown⟩
      next reason _ =>
        split at hok
        next later hlater _ =>
          cases hok
          obtain ⟨terms', hmem, hterms'⟩ := ih hlater
          exact ⟨terms', List.mem_cons_of_mem _ hmem, hterms'⟩
        next => cases hok
        next => cases hok
        next => cases hok

/-! ### The object -/

/-- Whether a term may tell the object in a cell from the candidate that it was tried on: it reads
the cell, which is not the candidate's, or it reads a name that was not given. -/
def Term.TellsApart (t : Term) (blueprint : Blueprint) (cell : Cell) : Prop :=
  (t.predicate.root.reads .position = true ∧ cell ≠ ⟨0, 0⟩) ∨
    (t.predicate.root.reads .name = true ∧ blueprint.name = none)

theorem Term.fits_build {t : Term} {blueprint : Blueprint} {cell : Cell}
    (halike : ¬ t.TellsApart blueprint cell) (id : ObjectId) (fallback : String) :
    t.fits (blueprint.build id fallback (some cell)) = t.fits blueprint.candidate := by
  have htest : t.predicate.test (blueprint.build id fallback (some cell)) =
      t.predicate.test blueprint.candidate := by
    refine Predicate.test_congr fun field hreads => ?_
    refine Blueprint.valueIn_build ?_ ?_
    · rintro rfl
      by_contra hcell
      exact halike (.inl ⟨hreads, hcell⟩)
    · rintro rfl hnone
      exact halike (.inr ⟨hreads, hnone⟩)
  rw [Term.fits, Term.fits, htest]

/-- Whether the object that the world would make for a description is one that the terms cannot tell
from the candidate, for an alternative that it is made of. -/
def Description.MadeAsTried (d : Description) (name : Option String) (w : World) : Prop :=
  ∀ blueprint cell, d.synthesize name = .ok blueprint → w.freeCell? = some cell →
    d.isEmpty = true ∨ ∃ terms ∈ d.alternatives,
      synthesizeConjunction terms name = .ok blueprint ∧
        ∀ t ∈ terms, ¬ t.TellsApart blueprint cell

theorem Description.fits_build {d : Description} {name : Option String} {w : World}
    {blueprint : Blueprint} {cell : Cell} (hmade : d.MadeAsTried name w)
    (hok : d.synthesize name = .ok blueprint) (hfree : w.freeCell? = some cell) (id : ObjectId)
    (fallback : String) : d.fits (blueprint.build id fallback (some cell)) = true := by
  rcases hmade blueprint cell hok hfree with hempty | ⟨terms, hterms, hconjunction, halike⟩
  · rw [Description.fits, hempty, Bool.true_or]
  · have hall : ∀ t ∈ terms, t.fits (blueprint.build id fallback (some cell)) = true := by
      intro t ht
      rw [t.fits_build (halike t ht)]
      exact synthesizeConjunction_eq_ok hconjunction t ht
    rw [Description.fits, Bool.or_eq_true]
    exact .inr (List.any_eq_true.mpr ⟨terms, hterms, List.all_eq_true.mpr hall⟩)

/-! ### Creating -/

theorem World.create_spec {w next : World} {blueprint : Blueprint} {id : ObjectId}
    (hsound : w.Sound) (hok : w.create blueprint = .ok (id, next)) :
    ∃ cell, w.freeCell? = some cell ∧ next.objects = w.objects ++ [w.newObject blueprint cell] ∧
      next.nextId = w.nextId + 1 ∧ next.find? id = some (w.newObject blueprint cell) := by
  obtain ⟨rfl, -, cell, hfree, rfl⟩ := create_eq_ok hok
  refine ⟨cell, hfree, rfl, rfl, ?_⟩
  have hfind := hsound.numbered.find?_withObject (o := w.newObject blueprint cell) rfl w.nextId
  rwa [if_pos (show w.nextId = (w.newObject blueprint cell).id from rfl)] at hfind

theorem Action.execute_create_eq {d : Description} {name : Option String}
    {w next : World} {blueprint : Blueprint} {id : ObjectId}
    (hsynthesize : d.synthesize name = .ok blueprint)
    (hcreate : w.create blueprint = .ok (id, next)) (lexicon : Lexicon) :
    (create d name).execute lexicon w =
      (⟨"Created " ++ next.nameOf id ++ " (" ++ d.phrase ++ ").", .created id⟩, next) := by
  have hexecute : (create d name).execute lexicon w = (Attempt.create d name w).settle w := rfl
  rw [hexecute, Attempt.create, hsynthesize]
  change Attempt.settle w (Attempt.change (w.create blueprint) >>= _) = _
  rw [hcreate]
  rfl

theorem Action.execute_create (lexicon : Lexicon) (d : Description) (name : Option String)
    (w : World) :
    (∃ blueprint id next, d.synthesize name = .ok blueprint ∧ w.create blueprint = .ok (id, next) ∧
      (create d name).execute lexicon w =
        (⟨"Created " ++ next.nameOf id ++ " (" ++ d.phrase ++ ").", .created id⟩, next)) ∨
    ∃ cause, (create d name).execute lexicon w = (.ofMiss cause, w) := by
  cases hsynthesize : d.synthesize name with
  | error cause =>
      refine .inr ⟨.refused (.unsatisfiable cause), ?_⟩
      change (Attempt.create d name w).settle w = _
      rw [Attempt.create, hsynthesize]
      rfl
  | ok blueprint =>
      cases hcreate : w.create blueprint with
      | error cause =>
          refine .inr ⟨.refused (.world cause), ?_⟩
          change (Attempt.create d name w).settle w = _
          rw [Attempt.create, hsynthesize]
          change Attempt.settle w (Attempt.change (w.create blueprint) >>= _) = _
          rw [hcreate]
          rfl
      | ok made =>
          have hexecute := execute_create_eq hsynthesize hcreate lexicon
          exact .inl ⟨blueprint, made.1, made.2, rfl, hcreate, hexecute⟩

/-- What is made for a description fits it, if the terms cannot tell it from the candidate. -/
theorem Action.fits_of_created {w : World} (hsound : w.Sound) {lexicon : Lexicon} {d : Description}
    {name : Option String} {id : ObjectId} (hmade : d.MadeAsTried name w)
    (hcreated : ((create d name).execute lexicon w).1.result = .created id) :
    ∃ o, ((create d name).execute lexicon w).2.find? id = some o ∧
      ((create d name).execute lexicon w).2.objects = w.objects ++ [o] ∧
      ((create d name).execute lexicon w).2.nextId = w.nextId + 1 ∧ d.fits o = true := by
  rcases execute_create lexicon d name w with
    ⟨blueprint, made, next, hsynthesize, hcreate, hexecute⟩ | ⟨cause, hexecute⟩
  · rw [hexecute] at hcreated ⊢
    cases hcreated
    obtain ⟨cell, hfree, hobjects, hnextId, hfind⟩ := World.create_spec hsound hcreate
    exact ⟨_, hfind, hobjects, hnextId, d.fits_build hmade hsynthesize hfree _ _⟩
  · rw [hexecute] at hcreated
    cases hcreated

/-! ### Where the two differ -/

def Description.corner : Description :=
  let coordinate := fun n => Expr.binary .eq
    (.index (.attr .obj .position) (.literal (.int n))) (.literal (.int 0))
  ⟨[[⟨"corner", false, ⟨.unary, .binary .and (coordinate 0) (coordinate 1),
    "obj.position[0] == 0 and obj.position[1] == 0"⟩⟩]]⟩

/-- Something whose name starts like that of the candidate. -/
def Description.initialC : Description :=
  ⟨[[⟨"initial", false, ⟨.unary, .binary .eq (.index (.attr .obj .name) (.literal (.int 0)))
    (.literal (.str "c")), "obj.name[0] == 'c'"⟩⟩]]⟩

theorem World.head?_fallbackName (w : World) (id : ObjectId) :
    (w.fallbackName id).toList.head? = some 'o' := by
  have hextend : ∀ (tries : Nat) (name : String), name.toList.head? = some 'o' →
      (w.extendName name tries).toList.head? = some 'o' := by
    intro tries
    induction tries with
    | zero => exact fun name hname => hname
    | succ tries ih =>
        intro name hname
        rw [extendName]
        split
        · refine ih _ ?_
          rw [String.toList_push, List.head?_append, hname]
          rfl
        · exact hname
  refine hextend _ _ ?_
  rw [String.toList_append]
  rfl

theorem World.create_of_free {w : World} {blueprint : Blueprint} {cell : Cell}
    (hname : blueprint.name = none) (hfree : w.freeCell? = some cell) :
    ∃ next, w.create blueprint = .ok (w.nextId, next) := by
  rw [World.create, hname, hfree]
  exact ⟨_, rfl⟩

theorem Action.created_of_free {w : World} (hsound : w.Sound) {d : Description}
    {blueprint : Blueprint} {cell : Cell} (hsynthesize : d.synthesize none = .ok blueprint)
    (hname : blueprint.name = none) (hfree : w.freeCell? = some cell) (lexicon : Lexicon) :
    ((create d none).execute lexicon w).1.result = .created w.nextId ∧
      ((create d none).execute lexicon w).2.find? w.nextId =
        some (w.newObject blueprint cell) := by
  obtain ⟨next, hcreate⟩ := World.create_of_free hname hfree
  obtain ⟨cell', hfree', -, -, hfind⟩ := World.create_spec hsound hcreate
  obtain rfl := Option.some.inj (hfree.symm.trans hfree')
  rw [execute_create_eq hsynthesize hcreate]
  exact ⟨rfl, hfind⟩

theorem Description.fits_corner {o : Object} {cell : Cell} (hposition : o.position = some cell)
    (hcell : cell ≠ ⟨0, 0⟩) : corner.fits o = false := by
  have hfits : corner.fits o = (cell.x == 0 && cell.y == 0) := by
    cases hx : cell.x == 0 <;> cases hy : cell.y == 0 <;>
      simp [fits, isEmpty, corner, Term.fits, Predicate.test, Predicate.truth, eval,
        Binding.object?, Attribute.valueIn, hposition, Literal.value, applyIndex, applyBinary,
        Value.same, Value.isTrue, hx, hy, bind, Except.bind, pure, Except.pure]
  rw [hfits, Bool.eq_false_iff, ne_eq, Bool.and_eq_true, beq_iff_eq, beq_iff_eq]
  rintro ⟨hx, hy⟩
  exact hcell (by cases cell; simp_all)

theorem Description.fits_initialC {o : Object} (hname : o.name.toList.head? = some 'o') :
    initialC.fits o = false := by
  have hfirst : o.name.toList[0]? = some 'o' := by
    rw [← List.head?_eq_getElem?, hname]
  simp [fits, isEmpty, initialC, Term.fits, Predicate.test, Predicate.truth, eval,
    Binding.object?, Attribute.valueIn, Literal.value, applyIndex, applyBinary,
    Value.same, hfirst, bind, Except.bind, pure, Except.pure]

end Apprentice
