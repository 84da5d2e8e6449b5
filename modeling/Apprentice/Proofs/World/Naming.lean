import Apprentice.Proofs.Goal.FreshName
import Apprentice.Proofs.Text.Ends
import Apprentice.Proofs.World.Run

/-!
# Who answers to a name

An object is made under a name that no older object answers to. The name is looked for without the
blanks around it, but it is kept with them. So in every world that is reached, names without blanks
around them identify their objects, and an object whose name has blanks around it does not answer to
it. No object has such a name unless it was given one.
-/

namespace Apprentice.World

variable {w next : World} {o : Object}

/-! ### Names that are made up -/

/-- A name with a number of underscores behind it. -/
def padded (name : String) (k : Nat) : String :=
  String.ofList (name.toList ++ List.replicate k '_')

theorem padded_zero (name : String) : padded name 0 = name := by
  simp [padded]

theorem padded_push (name : String) (k : Nat) : padded (name.push '_') k = padded name (k + 1) := by
  simp [padded, List.replicate_succ]

theorem extendName_eq {name : String} {tries k : Nat} (hle : k ≤ tries)
    (hfree : w.named? (padded name k) = none)
    (hused : ∀ j < k, w.named? (padded name j) ≠ none) :
    w.extendName name tries = padded name k := by
  induction tries generalizing name k with
  | zero =>
      obtain rfl := Nat.le_zero.mp hle
      exact (padded_zero name).symm
  | succ tries ih =>
      rw [extendName]
      cases k with
      | zero =>
          rw [padded_zero] at hfree ⊢
          rw [hfree]
          rfl
      | succ k =>
          have hfirst := hused 0 (Nat.succ_pos k)
          rw [padded_zero, ← Option.isSome_iff_ne_none] at hfirst
          rw [if_pos hfirst, ← padded_push]
          rw [← padded_push] at hfree
          refine ih (Nat.le_of_succ_le_succ hle) hfree fun j hj => ?_
          rw [padded_push]
          exact hused (j + 1) (Nat.succ_lt_succ hj)

/-- The characters of the names that are made up are no blanks, and are in lower case. -/
theorem forall_mem_padded_object (id : ObjectId) (k : Nat) :
    ∀ c ∈ (padded ("object_" ++ toString id) k).toList,
      Text.isBlank c = false ∧ Text.isPlain c = true := by
  have hletters : "object_".toList.all (fun c => !Text.isBlank c && Text.isPlain c) = true := by
    decide +kernel
  have hword : ∀ c ∈ "object_".toList, Text.isBlank c = false ∧ Text.isPlain c = true := by
    intro c hc
    simpa using List.all_eq_true.mp hletters c hc
  rw [padded, String.toList_ofList, String.toList_append, Nat.toString_eq_repr, Nat.toList_repr]
  intro c hc
  rcases List.mem_append.mp hc with hc | hc
  · rcases List.mem_append.mp hc with hc | hc
    · exact hword c hc
    · have hdigit := Nat.isDigit_of_mem_toDigits (by decide) (by decide) hc
      exact ⟨Text.isBlank_of_isDigit hdigit, Text.isPlain_of_isDigit hdigit⟩
  · rw [List.eq_of_mem_replicate hc]
    exact hword '_' (by decide)

/-- The name of an object that is given none has no blanks around it and is not in use. It has at
most one underscore more for every object there is, and no more than it needs. -/
theorem fallbackName_spec (w : World) (id : ObjectId) :
    w.named? (w.fallbackName id) = none ∧
      Text.trim (w.fallbackName id).toList = (w.fallbackName id).toList ∧
      ∃ k ≤ w.objects.length, w.fallbackName id = padded ("object_" ++ toString id) k ∧
        ∀ j < k, w.named? (padded ("object_" ++ toString id) j) ≠ none := by
  have hkey : ∀ k, nameKey (padded ("object_" ++ toString id) k) =
      (padded ("object_" ++ toString id) k).toList := by
    intro k
    have hchars := forall_mem_padded_object id k
    rw [nameKey, Text.trim_of_forall fun c hc => (hchars c hc).1, Text.lower,
      Text.lowerAfter_of_plain fun c hc => (hchars c hc).2]
  have hinj : Function.Injective fun k => nameKey (padded ("object_" ++ toString id) k) := by
    intro i j heq
    have hlength : (nameKey (padded ("object_" ++ toString id) i)).length =
        (nameKey (padded ("object_" ++ toString id) j)).length := congrArg List.length heq
    rw [hkey, hkey, padded, padded, String.toList_ofList, String.toList_ofList] at hlength
    simpa only [List.length_append, List.length_replicate, Nat.add_left_cancel_iff] using hlength
  obtain ⟨k, hk, hfree, hused⟩ := w.exists_first_unused hinj
  have hname : w.fallbackName id = padded ("object_" ++ toString id) k :=
    extendName_eq hk hfree hused
  rw [hname]
  exact ⟨hfree, Text.trim_of_forall fun c hc => (forall_mem_padded_object id k c hc).1, k, hk, rfl,
    hused⟩

/-! ### The names of a world -/

def names (w : World) : List String :=
  w.objects.map Object.name

theorem names_modify {f : Object → Object} (hname : ∀ o, (f o).name = o.name) (w : World)
    (id : ObjectId) : (w.modify id f).names = w.names := by
  rw [names, names, modify, List.map_map]
  apply List.map_congr_left
  intro o _
  rw [Function.comp_apply]
  split
  · exact hname o
  · rfl

theorem names_spill (parent : Option ObjectId) (children : List ObjectId) (w : World) :
    (w.spill parent children).names = w.names := by
  induction children generalizing w with
  | nil => rfl
  | cons child children ih =>
      cases parent with
      | none =>
          rw [spill, ih, names_modify (f := moveTo (w.unlink child).freeCell?) fun _ => rfl]
          rfl
      | some container =>
          rw [spill, ih]
          rfl

theorem names_emptiedOut (w : World) (id : ObjectId) : (w.emptiedOut id).names.Sublist w.names := by
  rw [emptiedOut, names_spill]
  exact List.filter_sublist.map Object.name

/-- A new object has the name that it is given, or one that is made up; nobody answers to it. -/
theorem newObject_name {blueprint : Blueprint} (hgiven : ∀ name, blueprint.name = some name →
      w.named? name = none) (cell : Cell) :
    w.named? (w.newObject blueprint cell).name = none ∧
      (blueprint.name = some (w.newObject blueprint cell).name ∨
        Text.trim (w.newObject blueprint cell).name.toList =
          (w.newObject blueprint cell).name.toList) := by
  cases hname : blueprint.name with
  | none =>
      have hmade : (w.newObject blueprint cell).name = w.fallbackName w.nextId := by
        simp [newObject, Blueprint.build, hname]
      obtain ⟨hunused, htrim, -⟩ := w.fallbackName_spec w.nextId
      rw [hmade]
      exact ⟨hunused, .inr htrim⟩
  | some name =>
      have hmade : (w.newObject blueprint cell).name = name := by
        simp [newObject, Blueprint.build, hname]
      rw [hmade]
      exact ⟨hgiven name hname, .inl rfl⟩

/-- A call takes names away, or it adds one that nobody answers to, which it was given unless there
are no blanks around it. -/
theorem names_perform (w : World) (op : Operation) :
    (w.perform op).names.Sublist w.names ∨
      ∃ name, (w.perform op).names = w.names ++ [name] ∧ w.named? name = none ∧
        ((∃ blueprint, op = .create blueprint ∧ blueprint.name = some name) ∨
          Text.trim name.toList = name.toList) := by
  cases op with
  | create blueprint =>
      simp only [perform, Operation.result]
      cases hok : w.create blueprint with
      | error cause => exact .inl (List.Sublist.refl _)
      | ok made =>
          obtain ⟨-, hgiven, cell, -, hnext⟩ := create_eq_ok hok
          obtain ⟨hunused, horigin⟩ := newObject_name hgiven cell
          refine .inr ⟨(w.newObject blueprint cell).name, ?_, hunused, ?_⟩
          · simp [Except.map, Except.mapError, Except.toOption, hnext, log, withObject, names]
          · exact horigin.imp_left fun hname => ⟨blueprint, rfl, hname⟩
  | setOwner id owner =>
      simp only [perform, Operation.result]
      cases hok : w.setOwner id owner with
      | error cause => exact .inl (List.Sublist.refl _)
      | ok next =>
          obtain ⟨o, -, ⟨-, rfl⟩ | ⟨-, rfl⟩⟩ := setOwner_eq_ok hok
          · exact .inl (List.Sublist.refl _)
          · have hnames := names_modify (f := fun o => { o with owner := owner }) (fun _ => rfl) w id
            exact .inl (hnames ▸ List.Sublist.refl w.names)
  | putInto id container =>
      simp only [perform, Operation.result]
      cases hok : w.putInto id container with
      | error cause => exact .inl (List.Sublist.refl _)
      | ok next =>
          obtain ⟨-, -, -, -, rfl⟩ := putInto_eq_ok hok
          have hnames := names_modify (f := moveTo none) (fun _ => rfl) (w.link id container) id
          exact .inl (hnames ▸ List.Sublist.refl w.names)
  | takeOut id =>
      simp only [perform, Operation.result]
      cases hok : w.takeOut id with
      | error cause => exact .inl (List.Sublist.refl _)
      | ok taken =>
          obtain ⟨-, -, cell, -, hnext⟩ := takeOut_eq_ok hok
          have hnames := names_modify (f := moveTo (some cell)) (fun _ => rfl) (w.unlink id) id
          simp only [Except.map, Except.mapError, Except.toOption, Option.getD_some, hnext]
          exact .inl (hnames ▸ List.Sublist.refl w.names)
  | remove id =>
      simp only [perform, Operation.result]
      cases hok : w.remove id with
      | error cause => exact .inl (List.Sublist.refl _)
      | ok removed =>
          obtain ⟨-, -, hnext⟩ := remove_eq_ok hok
          simp only [Except.map, Except.toOption, Option.getD_some, hnext]
          exact .inl (names_emptiedOut w id)
  | advanceClock => exact .inl (List.Sublist.refl _)

/-! ### Runs -/

/-- Whether no object answers to the name of a younger one. -/
def Unclaimed (w : World) : Prop :=
  w.names.Pairwise fun older newer => Text.lower older.toList ≠ nameKey newer

theorem Unclaimed.perform (hunclaimed : w.Unclaimed) (op : Operation) :
    (w.perform op).Unclaimed := by
  rcases w.names_perform op with hsublist | ⟨name, hnames, hunused, -⟩
  · exact List.Pairwise.sublist hsublist hunclaimed
  · rw [Unclaimed, hnames, List.pairwise_append]
    refine ⟨hunclaimed, List.pairwise_singleton _ _, ?_⟩
    intro older holder newer hnewer heq
    rw [List.mem_singleton.mp hnewer] at heq
    obtain ⟨o, ho, rfl⟩ := List.mem_map.mp holder
    exact named?_eq_none.mp hunused (List.mem_map.mpr ⟨o, ho, heq⟩)

theorem Unclaimed.run (hunclaimed : w.Unclaimed) {ops : List Operation}
    (hrun : w.run ops = some next) : next.Unclaimed := by
  induction ops generalizing w with
  | nil =>
      cases hrun
      exact hunclaimed
  | cons op ops ih =>
      rw [World.run] at hrun
      split at hrun
      next => exact ih (hunclaimed.perform op) hrun
      next => cases hrun

/-- Every name was there at the start, or was given, or has no blanks around it. -/
theorem mem_names_run {ops : List Operation} (hrun : w.run ops = some next) :
    ∀ name ∈ next.names, name ∈ w.names ∨
      (∃ blueprint, .create blueprint ∈ ops ∧ blueprint.name = some name) ∨
      Text.trim name.toList = name.toList := by
  induction ops generalizing w with
  | nil =>
      cases hrun
      exact fun name hname => .inl hname
  | cons op ops ih =>
      rw [run] at hrun
      split at hrun
      next =>
        intro name hname
        rcases ih hrun name hname with hstart | ⟨blueprint, hmem, hgiven⟩ | htrim
        · rcases w.names_perform op with hsublist | ⟨added, hnames, -, horigin⟩
          · exact .inl (hsublist.subset hstart)
          · rw [hnames, List.mem_append, List.mem_singleton] at hstart
            rcases hstart with hstart | rfl
            · exact .inl hstart
            · rcases horigin with ⟨blueprint, rfl, hgiven⟩ | htrim
              · exact .inr (.inl ⟨blueprint, List.mem_cons_self, hgiven⟩)
              · exact .inr (.inr htrim)
        · exact .inr (.inl ⟨blueprint, List.mem_cons_of_mem _ hmem, hgiven⟩)
        · exact .inr (.inr htrim)
      next => cases hrun

/-! ### Answering to a name -/

theorem trimmed_eq_self_iff {name : String} :
    Text.trimmed name = name ↔ Text.trim name.toList = name.toList := by
  rw [Text.trimmed, ← String.toList_inj, String.toList_ofList]

theorem trim_of_named?_self (hnamed : w.named? o.name = some o) :
    Text.trim o.name.toList = o.name.toList := by
  have hkey : Text.lower o.name.toList = Text.lower (Text.trim o.name.toList) := by
    simpa [named?] using List.find?_some hnamed
  rw [← Text.trim_lower_eq_self_iff, hkey, Text.trim_lower_eq_self_iff]
  exact Text.trim_trim _

theorem Unclaimed.named?_self (hunclaimed : w.Unclaimed) (ho : o ∈ w.objects)
    (htrim : Text.trim o.name.toList = o.name.toList) : w.named? o.name = some o := by
  obtain ⟨older, younger, hsplit⟩ := List.append_of_mem ho
  rw [Unclaimed, names, List.pairwise_map, hsplit, List.pairwise_append] at hunclaimed
  obtain ⟨-, -, holder⟩ := hunclaimed
  rw [named?, List.find?_eq_some_iff_append]
  refine ⟨by simp [htrim], older, younger, hsplit, fun p hp => ?_⟩
  simpa [nameKey] using holder p hp o List.mem_cons_self

/-- In every world that is reached, an object answers to its own name exactly if there are no blanks
around the name; no other object then has the name in any letter case; and a name with blanks around
it is one that the object was given. -/
theorem named?_self_iff_of_run (width height : UInt32) (ops : List Operation) {w : World}
    (hrun : (new width height).run ops = some w) :
    (∀ o ∈ w.objects, w.named? o.name = some o ↔ Text.trimmed o.name = o.name) ∧
    (∀ o ∈ w.objects, ∀ p ∈ w.objects, Text.trimmed o.name = o.name →
      Text.lower p.name.toList = Text.lower o.name.toList → p = o) ∧
    ∀ o ∈ w.objects, Text.trimmed o.name ≠ o.name →
      ∃ blueprint, .create blueprint ∈ ops ∧ blueprint.name = some o.name := by
  have hunclaimed : w.Unclaimed := Unclaimed.run (w := new width height) .nil hrun
  simp only [trimmed_eq_self_iff, ne_eq]
  refine ⟨fun o ho => ⟨trim_of_named?_self, hunclaimed.named?_self ho⟩, ?_, ?_⟩
  · intro o ho p hp htrim hlower
    -- the other name has no blanks around it either, because it has none in lower case
    have htrimp : Text.trim p.name.toList = p.name.toList := by
      rw [← Text.trim_lower_eq_self_iff, hlower, Text.trim_lower_eq_self_iff]
      exact htrim
    have hsame : w.named? p.name = w.named? o.name := by
      rw [named?, named?, htrimp, htrim, hlower]
    rw [hunclaimed.named?_self hp htrimp, hunclaimed.named?_self ho htrim] at hsame
    exact Option.some.inj hsame
  · intro o ho hblanks
    rcases mem_names_run hrun o.name (List.mem_map_of_mem ho) with hnone | hgiven | htrim
    · cases hnone
    · exact hgiven
    · exact absurd htrim hblanks

/-- With blanks around it, one name is given twice, in two letter cases, and neither object answers
to it; without them, it is refused the second time. -/
theorem named?_self_iff_of_run_blanks :
    ∃ w, (new 3 2).run
        [.create { name := some " a " }, .create { name := some " A " },
          .create { name := some "b" }, .create { name := some "B" }, .create {}] = some w ∧
      w.names = [" a ", " A ", "b", "object_4"] ∧
      ∀ o ∈ w.objects, w.named? o.name = some o ↔ Text.trimmed o.name = o.name := by
  have hends : ((new 3 2).run
        [.create { name := some " a " }, .create { name := some " A " },
          .create { name := some "b" }, .create { name := some "B" }, .create {}]).map names =
      some [" a ", " A ", "b", "object_4"] := by
    decide +kernel
  obtain ⟨w, hrun, hnames⟩ := Option.map_eq_some_iff.mp hends
  exact ⟨w, hrun, hnames, (named?_self_iff_of_run 3 2 _ hrun).1⟩

end Apprentice.World
