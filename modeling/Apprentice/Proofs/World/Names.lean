import Apprentice.Proofs.World.Change
import Mathlib.Data.List.Perm.Subperm
import Mathlib.Data.Nat.Find

/-!
# Objects by name

An object is looked up by a key, which is the name in lower case without the blanks around it.
Moving an object or handing it over does not change who answers to a name, and a new object answers
to its own name unless an older one does. Names with blanks around them are the exception: the key
of such a name is not that of the object which has it.
-/

namespace Apprentice

/-- What is compared when an object is looked up by a name. -/
def nameKey (name : String) : List Char :=
  Text.lower (Text.trim name.toList)

namespace World

variable {w : World} {id : ObjectId} {o : Object} {name : String}

/-- Whether every object is found under its own name. -/
def WellNamed (w : World) : Prop :=
  ∀ o ∈ w.objects, w.named? o.name = some o

theorem named?_eq_none :
    w.named? name = none ↔ nameKey name ∉ w.objects.map fun o => Text.lower o.name.toList := by
  rw [named?, List.find?_eq_none, List.mem_map, not_exists]
  refine forall_congr' fun o => ?_
  simp [nameKey]

/-- Of one more names with different keys than there are objects, one is not in use. -/
theorem exists_unused (w : World) {names : Nat → String}
    (hinj : Function.Injective fun k => nameKey (names k)) :
    ∃ k ≤ w.objects.length, w.named? (names k) = none := by
  by_contra hnone
  let keys := (List.range (w.objects.length + 1)).map fun k => nameKey (names k)
  have hnodup : keys.Nodup := List.Nodup.map hinj List.nodup_range
  have hused : keys ⊆ w.objects.map fun o => Text.lower o.name.toList := by
    intro key hkey
    obtain ⟨k, hk, rfl⟩ := List.mem_map.mp hkey
    by_contra hfree
    exact hnone ⟨k, Nat.le_of_lt_succ (List.mem_range.mp hk), named?_eq_none.mpr hfree⟩
  have hlength := (hnodup.subperm hused).length_le
  rw [List.length_map, List.length_map, List.length_range] at hlength
  omega

theorem exists_first_unused (w : World) {names : Nat → String}
    (hinj : Function.Injective fun k => nameKey (names k)) :
    ∃ k ≤ w.objects.length, w.named? (names k) = none ∧ ∀ j < k, w.named? (names j) ≠ none := by
  classical
  obtain ⟨k, hk, hfree⟩ := w.exists_unused hinj
  have hsome : ∃ k, w.named? (names k) = none := ⟨k, hfree⟩
  exact ⟨Nat.find hsome, Nat.le_trans (Nat.find_min' hsome hfree) hk, Nat.find_spec hsome,
    fun j => Nat.find_min hsome⟩

theorem mem_of_named? (hnamed : w.named? name = some o) : o ∈ w.objects :=
  List.mem_of_find?_eq_some hnamed

theorem named?_modify {f : Object → Object} (hname : ∀ o, (f o).name = o.name) (w : World)
    (id : ObjectId) (name : String) :
    (w.modify id f).named? name =
      (w.named? name).map fun o => if o.id == id then f o else o := by
  rw [named?, named?, modify, List.find?_map]
  congr 2
  funext o
  rw [Function.comp_apply]
  split
  · rw [hname]
  · rfl

theorem named?_withObject (hunused : w.named? name = none) (o : Object) :
    (w.withObject o).named? name =
      if Text.lower o.name.toList = nameKey name then some o else none := by
  change (w.objects ++ [o]).find? _ = _
  change w.objects.find? _ = none at hunused
  rw [List.find?_append, hunused, Option.none_or, List.find?_singleton]
  exact if_congr beq_iff_eq rfl rfl

theorem nameKey_of_trim (htrim : Text.trim name.toList = name.toList) :
    nameKey name = Text.lower name.toList := by
  rw [nameKey, htrim]

end World

end Apprentice
