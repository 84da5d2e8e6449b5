import Apprentice.Text.Blank

/-!
# Lengths in bytes

The length of a text in UTF-8 bytes, for texts as lists of characters and as strings.
-/

namespace Apprentice.Text

variable {cs : List Char}

@[simp]
theorem byteLength_append (cs ds : List Char) :
    byteLength (cs ++ ds) = byteLength cs + byteLength ds := by
  induction cs with
  | nil => exact (Nat.zero_add _).symm
  | cons c cs ih => rw [List.cons_append, byteLength, ih, byteLength, Nat.add_assoc]

theorem byteLength_eq_zero_iff : byteLength cs = 0 ↔ cs = [] := by
  cases cs with
  | nil => exact iff_of_true rfl rfl
  | cons c cs =>
    have hpos := c.utf8Size_pos
    simp only [byteLength, List.cons_ne_nil, iff_false]
    omega

theorem byteLength_pos (hsome : cs ≠ []) : 0 < byteLength cs :=
  Nat.pos_of_ne_zero (mt byteLength_eq_zero_iff.mp hsome)

theorem byteLength_ofList (cs : List Char) : (String.ofList cs).utf8ByteSize = byteLength cs := by
  induction cs with
  | nil => rfl
  | cons c cs ih =>
    have hsplit : String.ofList (c :: cs) = String.singleton c ++ String.ofList cs := by
      rw [String.singleton_eq_ofList, ← String.ofList_append]
      rfl
    rw [hsplit, String.utf8ByteSize_append, String.utf8ByteSize_singleton, ih, byteLength]

theorem byteLength_toList (s : String) : byteLength s.toList = s.utf8ByteSize := by
  rw [← byteLength_ofList, String.ofList_toList]

theorem eq_of_prefix_of_size {s t : String} (hstarts : s.toList <+: t.toList)
    (hsize : s.utf8ByteSize = t.utf8ByteSize) : s = t := by
  obtain ⟨rest, hrest⟩ := hstarts
  have hlength : byteLength s.toList + byteLength rest = byteLength s.toList := by
    rw [← byteLength_append, hrest, byteLength_toList, byteLength_toList, hsize]
  rw [byteLength_eq_zero_iff.mp (Nat.add_eq_left.mp hlength), List.append_nil] at hrest
  exact String.toList_inj.mp hrest

end Apprentice.Text
