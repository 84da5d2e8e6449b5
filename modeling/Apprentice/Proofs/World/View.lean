import Apprentice.World.Basic
import Mathlib.Data.List.Nodup

/-!
# The two views of a world

A world is looked at in two ways: `find?` says which object has an id, and `containerOf?` says which
container an object is in. This module says what every change does to the two views, so that no
later proof has to know how objects and links are stored.

A link table is a map if no object is its key twice. Only then does `contentsOf`, which goes through
the whole table, agree with `containerOf?`, which stops at the first link.
-/

namespace Apprentice.World

variable {w next : World} {id x : ObjectId} {o : Object}

def ids (w : World) : List ObjectId :=
  w.objects.map Object.id

/-! ### Objects -/

theorem id_of_find? (h : w.find? id = some o) : o.id = id := by
  have hid := List.find?_some h
  simpa using hid

theorem mem_of_find? (h : w.find? id = some o) : o ∈ w.objects :=
  List.mem_of_find?_eq_some h

theorem contains_iff : w.contains id = true ↔ ∃ o, w.find? id = some o :=
  Option.isSome_iff_exists

theorem contains_of_find? (h : w.find? id = some o) : w.contains id = true :=
  contains_iff.mpr ⟨o, h⟩

theorem find?_eq_none_of_not_contains (h : ¬ w.contains id = true) : w.find? id = none := by
  cases hfind : w.find? id with
  | none => rfl
  | some o => exact absurd (contains_of_find? hfind) h

theorem contains_iff_mem_ids : w.contains id = true ↔ id ∈ w.ids := by
  rw [contains_iff, ids, List.mem_map]
  constructor
  · rintro ⟨o, hfind⟩
    exact ⟨o, mem_of_find? hfind, id_of_find? hfind⟩
  · rintro ⟨o, hmem, rfl⟩
    have hsome : (w.objects.find? fun other => other.id == o.id).isSome = true := by
      rw [List.find?_isSome]
      exact ⟨o, hmem, by simp⟩
    exact Option.isSome_iff_exists.mp hsome

theorem find?_of_mem (hids : w.ids.Nodup) (hmem : o ∈ w.objects) : w.find? o.id = some o := by
  obtain ⟨other, hother⟩ := contains_iff.mp
    (contains_iff_mem_ids.mpr (List.mem_map.mpr ⟨o, hmem, rfl⟩))
  have hsame : other = o :=
    List.inj_on_of_nodup_map hids (mem_of_find? hother) hmem (id_of_find? hother)
  rw [hother, hsame]

/-! ### What leaves a view as it is -/

@[simp] theorem find?_link (w : World) (id container x : ObjectId) :
    (w.link id container).find? x = w.find? x := rfl

@[simp] theorem find?_unlink (w : World) (id x : ObjectId) :
    (w.unlink id).find? x = w.find? x := rfl

@[simp] theorem containerOf?_modify (w : World) (id : ObjectId) (f : Object → Object)
    (x : ObjectId) : (w.modify id f).containerOf? x = w.containerOf? x := rfl

/-! ### Changes of an object -/

theorem find?_modify {f : Object → Object} (hf : ∀ o, (f o).id = o.id) (w : World)
    (id x : ObjectId) :
    (w.modify id f).find? x = if x = id then (w.find? x).map f else w.find? x := by
  have hkeep : ((fun other : Object => other.id == x) ∘ fun other : Object =>
      if other.id == id then f other else other) = fun other => other.id == x := by
    funext other
    simp only [Function.comp_apply]
    split
    · rw [hf]
    · rfl
  simp only [find?, modify, List.find?_map, hkeep]
  cases hfind : w.objects.find? fun other => other.id == x with
  | none => simp
  | some o =>
    have hid : o.id = x := id_of_find? (w := w) hfind
    simp only [Option.map_some, hid]
    split <;> simp_all

theorem find?_modify_moveTo (w : World) (id : ObjectId) (position : Option Cell) (x : ObjectId) :
    (w.modify id (moveTo position)).find? x =
      if x = id then (w.find? x).map (moveTo position) else w.find? x :=
  find?_modify (f := moveTo position) (fun _ => rfl) w id x

theorem ids_modify {f : Object → Object} (hf : ∀ o, (f o).id = o.id) (w : World)
    (id : ObjectId) : (w.modify id f).ids = w.ids := by
  simp only [ids, modify, List.map_map]
  apply List.map_congr_left
  intro other _
  simp only [Function.comp_apply]
  split
  · rw [hf]
  · rfl

/-- A world without one of its objects. -/
def without (w : World) (id : ObjectId) : World :=
  { w.unlink id with objects := w.objects.filter fun other => other.id != id }

theorem find?_without (w : World) (id x : ObjectId) :
    (w.without id).find? x = if x = id then none else w.find? x := by
  simp only [find?, without, List.find?_filter]
  by_cases hx : x = id
  · rw [if_pos hx, List.find?_eq_none]
    intro other _
    simp [hx]
  · rw [if_neg hx]
    congr 1
    funext other
    by_cases hother : other.id = x
    · simp [hother, hx]
    · simp [hother]

/-! ### Changes of the links -/

theorem containerOf?_unlink (w : World) (id x : ObjectId) :
    (w.unlink id).containerOf? x = if x = id then none else w.containerOf? x := by
  simp only [containerOf?, unlink, List.find?_filter]
  by_cases hx : x = id
  · rw [if_pos hx, Option.map_eq_none_iff, List.find?_eq_none]
    intro link _
    simp [hx]
  · rw [if_neg hx]
    congr 2
    funext link
    by_cases hlink : link.1 = x
    · simp [hlink, hx]
    · simp [hlink]

theorem containerOf?_link (w : World) (id container x : ObjectId) :
    (w.link id container).containerOf? x = if x = id then some container else w.containerOf? x := by
  by_cases hx : x = id
  · rw [if_pos hx]
    simp [containerOf?, link, hx]
  · have hskip : (w.link id container).containerOf? x = (w.unlink id).containerOf? x := by
      simp [containerOf?, link, Ne.symm hx]
    rw [hskip, containerOf?_unlink, if_neg hx, if_neg hx]

@[simp] theorem containerOf?_without (w : World) (id x : ObjectId) :
    (w.without id).containerOf? x = if x = id then none else w.containerOf? x :=
  containerOf?_unlink w id x

theorem containerOf?_spill (parent : Option ObjectId) (children : List ObjectId) (w : World)
    (x : ObjectId) :
    (w.spill parent children).containerOf? x =
      if x ∈ children then parent else w.containerOf? x := by
  induction children generalizing w with
  | nil => simp [spill]
  | cons child children ih =>
    by_cases hx : x ∈ children
    · cases parent <;> simp [spill, ih, hx]
    · cases parent with
      | none => simp [spill, ih, hx, containerOf?_unlink]
      | some container => simp [spill, ih, hx, containerOf?_link]

/-! ### The link table as a map -/

/-- No object is a key of the link table twice. -/
def LinksAreMap (w : World) : Prop :=
  (w.containers.map Prod.fst).Nodup

theorem linksAreMap_unlink (h : w.LinksAreMap) (id : ObjectId) : (w.unlink id).LinksAreMap :=
  h.sublist (List.filter_sublist.map Prod.fst)

theorem linksAreMap_link (h : w.LinksAreMap) (id container : ObjectId) :
    (w.link id container).LinksAreMap := by
  refine List.nodup_cons.mpr ⟨?_, linksAreMap_unlink h id⟩
  simp [unlink]

theorem linksAreMap_spill (parent : Option ObjectId) (children : List ObjectId)
    (h : w.LinksAreMap) : (w.spill parent children).LinksAreMap := by
  induction children generalizing w with
  | nil => exact h
  | cons child children ih =>
    cases parent with
    | none => exact ih (linksAreMap_unlink h child)
    | some container => exact ih (linksAreMap_link h child container)

theorem mem_containers_of_containerOf? {container : ObjectId}
    (h : w.containerOf? x = some container) : (x, container) ∈ w.containers := by
  obtain ⟨link, hfind, hcontainer⟩ := Option.map_eq_some_iff.mp h
  have hkey : link.1 = x := by simpa using List.find?_some hfind
  have hlink : link = (x, container) := Prod.ext hkey hcontainer
  exact hlink ▸ List.mem_of_find?_eq_some hfind

theorem containerOf?_eq_some_iff (h : w.LinksAreMap) {container : ObjectId} :
    w.containerOf? x = some container ↔ (x, container) ∈ w.containers := by
  refine ⟨mem_containers_of_containerOf?, fun hmem => ?_⟩
  have hsome : (w.containers.find? fun link => link.1 == x).isSome = true := by
    rw [List.find?_isSome]
    exact ⟨_, hmem, by simp⟩
  obtain ⟨link, hfind⟩ := Option.isSome_iff_exists.mp hsome
  have hkey : link.1 = x := by simpa using List.find?_some hfind
  have hlink : link = (x, container) :=
    List.inj_on_of_nodup_map h (List.mem_of_find?_eq_some hfind) hmem hkey
  rw [containerOf?, hfind, hlink]
  rfl

theorem mem_contentsOf (h : w.LinksAreMap) : x ∈ w.contentsOf id ↔ w.containerOf? x = some id := by
  rw [containerOf?_eq_some_iff h, contentsOf, List.mem_mergeSort, List.mem_filterMap]
  constructor
  · rintro ⟨⟨key, container⟩, hmem, hkey⟩
    simp only [beq_iff_eq, Option.ite_none_right_eq_some, Option.some.injEq] at hkey
    obtain ⟨rfl, rfl⟩ := hkey
    exact hmem
  · intro hmem
    exact ⟨_, hmem, by simp⟩

theorem nodup_contentsOf (h : w.LinksAreMap) (id : ObjectId) : (w.contentsOf id).Nodup := by
  rw [contentsOf, (List.mergeSort_perm _ _).nodup_iff, List.Nodup, List.pairwise_filterMap]
  refine (List.pairwise_map.mp h).imp ?_
  intro first second hne key hkey key' hkey'
  simp only [beq_iff_eq, Option.ite_none_right_eq_some, Option.some.injEq] at hkey hkey'
  rw [← hkey.2, ← hkey'.2]
  exact hne

end Apprentice.World
