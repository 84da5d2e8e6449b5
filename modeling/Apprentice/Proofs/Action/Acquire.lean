import Apprentice.Proofs.Description.Candidate
import Apprentice.Proofs.World.Acquire

/-!
# The steps towards having something

When a step of a plan to have something takes effect, and what it does then. In all other cases it
is a miss or has nothing to do, and the world stays as it was.
-/

namespace Apprentice.Action

variable {w : World} {o : Object} {name : String} {container : ObjectId} {cell : Cell}
  {d : Description} {blueprint : Blueprint}

theorem execute_take (hsound : w.Sound) (hnamed : w.named? name = some o)
    (howner : o.owner = .world) (hopen : w.containerOf? o.id = none) (lexicon : Lexicon) :
    (take (.named name)).execute lexicon w =
      (⟨"I took " ++ o.name ++ ".", .object o.id⟩, w.handOver o .agent) := by
  have hfind := World.find?_of_mem hsound.numbered.nodup (World.mem_of_named? hnamed)
  have hset : w.setOwner o.id .agent = .ok (w.handOver o .agent) :=
    World.setOwner_of_find? hfind (by simp [howner])
  change (Attempt.take (.named name) w).settle w = _
  rw [Attempt.take, Target.resolve, resolveNamed, hnamed]
  dsimp only [bind, Except.bind]
  rw [howner, hopen]
  dsimp only
  rw [hset]
  rfl

theorem execute_take_else (hnot : ∀ o, w.named? name = some o → o.owner = .world →
      w.containerOf? o.id ≠ none) (lexicon : Lexicon) :
    ((take (.named name)).execute lexicon w).2 = w := by
  change ((Attempt.take (.named name) w).settle w).2 = w
  rw [Attempt.take, Target.resolve, resolveNamed]
  cases hnamed : w.named? name with
  | none => rfl
  | some o =>
      dsimp only [bind, Except.bind]
      cases howner : o.owner with
      | agent => rfl
      | user => rfl
      | world =>
          obtain ⟨container, hcontainer⟩ := Option.ne_none_iff_exists'.mp (hnot o hnamed howner)
          rw [hcontainer]
          rfl

theorem execute_retrieve (hsound : w.Sound) (hnamed : w.named? name = some o)
    (hcontainer : w.containerOf? o.id = some container) (hfree : w.freeCell? = some cell)
    (lexicon : Lexicon) (label : String) :
    (retrieveFromContainer name label).execute lexicon w =
      (⟨"I got " ++ name ++ " out of " ++ w.nameOf container ++ ".", .object o.id⟩,
        w.liftOut o container cell) := by
  have hfind := World.find?_of_mem hsound.numbered.nodup (World.mem_of_named? hnamed)
  change (Attempt.retrieve name w).settle w = _
  rw [Attempt.retrieve, resolveNamed, hnamed]
  dsimp only [bind, Except.bind]
  rw [hcontainer]
  dsimp only
  rw [World.takeOut_of_containerOf? hfind hcontainer hfree]
  rfl

theorem execute_retrieve_else (hsound : w.Sound) (hnot : ∀ o container, w.named? name = some o →
      w.containerOf? o.id = some container → w.freeCell? = none) (lexicon : Lexicon)
    (label : String) : ((retrieveFromContainer name label).execute lexicon w).2 = w := by
  change ((Attempt.retrieve name w).settle w).2 = w
  rw [Attempt.retrieve, resolveNamed]
  cases hnamed : w.named? name with
  | none => rfl
  | some o =>
      dsimp only [bind, Except.bind]
      cases hcontainer : w.containerOf? o.id with
      | none => rfl
      | some container =>
          have hfind := World.find?_of_mem hsound.numbered.nodup (World.mem_of_named? hnamed)
          dsimp only
          rw [World.takeOut_of_full hfind hcontainer (hnot o container hnamed hcontainer)]
          rfl

theorem execute_create_unused (hsynthesize : d.synthesize (some name) = .ok blueprint)
    (hname : blueprint.name = some name) (hunused : w.named? name = none)
    (hfree : w.freeCell? = some cell) (lexicon : Lexicon) :
    (create d (some name)).execute lexicon w =
      (⟨"Created " ++ (w.withNew blueprint cell).nameOf w.nextId ++ " (" ++ d.phrase ++ ").",
        .created w.nextId⟩, w.withNew blueprint cell) :=
  execute_create_eq hsynthesize (World.create_of_unused hname hunused hfree) lexicon

theorem execute_create_full (hfull : w.freeCell? = none) (given : Option String)
    (lexicon : Lexicon) : ((create d given).execute lexicon w).2 = w := by
  rcases execute_create lexicon d given w with
    ⟨blueprint, id, next, -, hcreate, -⟩ | ⟨cause, hexecute⟩
  · obtain ⟨-, -, cell, hfree, -⟩ := World.create_eq_ok hcreate
    rw [hfull] at hfree
    cases hfree
  · rw [hexecute]

end Apprentice.Action
