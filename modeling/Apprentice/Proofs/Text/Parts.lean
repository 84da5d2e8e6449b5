import Apprentice.Proofs.Text.Recomposition
import Apprentice.Proofs.Text.Uncapitalized

/-!
# The parts of a text

A text and its canonical form have the same parts in full decomposition, up to their order. Lower
case replaces some of the parts, each of them by one of the same kind, as far as kinds go that do
not tell small letters from capitals. So whether a text has parts of a kind, and how many parts it
has at all, can be seen from its normal form.
-/

namespace Apprentice.Text

variable {α : Type} {kind : Char → α} {P : Char → Bool} {c d : Char} {cs ds : List Char}

/-- What a text consists of in full decomposition. -/
def parts (cs : List Char) : List Char :=
  cs.flatMap decomposeChar

theorem parts_append (cs ds : List Char) : parts (cs ++ ds) = parts cs ++ parts ds :=
  List.flatMap_append

theorem parts_cons (c : Char) (cs : List Char) : parts (c :: cs) = decomposeChar c ++ parts cs :=
  List.flatMap_cons

theorem parts_singleton (c : Char) : parts [c] = decomposeChar c :=
  List.flatMap_singleton decomposeChar c

theorem decomposeChar_of_mem_parts (hc : c ∈ parts cs) : decomposeChar c = [c] := by
  obtain ⟨whole, -, hpart⟩ := List.mem_flatMap.mp hc
  exact decomposeChar_of_mem hpart

/-! ### The canonical form -/

theorem insertMark_perm (mark : Char) (cs : List Char) :
    (insertMark mark cs).Perm (mark :: cs) := by
  induction cs with
  | nil => rfl
  | cons c cs ih =>
      rw [insertMark]
      split
      · exact (ih.cons c).trans (.swap mark c cs)
      · rfl

theorem orderMarks_perm (cs : List Char) : (orderMarks cs).Perm cs := by
  induction cs with
  | nil => rfl
  | cons c cs ih =>
      rw [orderMarks]
      split
      · exact ih.cons c
      · exact (insertMark_perm c _).trans (ih.cons c)

/-- A text and its canonical form have the same parts. -/
theorem parts_canonical_perm (cs : List Char) : (parts (canonical cs)).Perm (parts cs) := by
  rw [canonical]
  split
  next => rfl
  next =>
    have hparts : ∀ c ∈ orderMarks (parts cs), decomposeChar c = [c] := fun c hc =>
      decomposeChar_of_mem_parts (mem_orderMarks.mp hc)
    have hcomposed : orderMarks (parts (compose (orderMarks (parts cs)))) = orderMarks (parts cs) :=
      orderMarks_compose hparts (ordered_orderMarks _)
    have hsame := orderMarks_perm (parts (compose (orderMarks (parts cs))))
    rw [hcomposed] at hsame
    exact hsame.symm.trans (orderMarks_perm (parts cs))

/-! ### Lower case -/

/-- The parts of a code point that is no syllable. -/
def tabledParts (code : Nat) : List Char :=
  ((parts? code).getD (tableParts code)).map Char.ofNat

theorem decomposeChar_eq_tabledParts (hsyllable : isSyllable c.toNat = false) :
    decomposeChar c = tabledParts c.toNat := by
  rw [tabledParts]
  cases hparts : parts? c.toNat with
  | some parts => exact decomposeChar_of_parts? hparts
  | none => exact decomposeChar_of_table hsyllable

/-- The rows are about characters, and about none of the syllables. -/
theorem valid_of_rows : ∀ row ∈ lowerRows, ∀ code ∈ rowCodes row, isSyllable code = false ∧
    ∀ image ∈ lowerByRow code row, image.isValidChar ∧ isSyllable image = false := by
  decide +kernel

/-- The parts of the characters that have no row of their own. -/
theorem parts_of_no_row :
    (∀ code < 0x80, decomposeChar (Char.ofNat code).toLower = [(Char.ofNat code).toLower]) ∧
      parts ['i', '\u0307'] = ['i', '\u0307'] ∧ decomposeChar '\u0130' = ['I', '\u0307'] ∧
      decomposeChar '\u03a3' = ['\u03a3'] ∧ decomposeChar '\u03c2' = ['\u03c2'] ∧
      decomposeChar '\u03c3' = ['\u03c3'] := by
  decide +kernel

/-- What is checked of kinds of characters, row by row: the lower case of a character has parts of
the same kinds. -/
def KeptByRows (kind : Char → α) : Prop :=
  (∀ code < 0x80, kind (Char.ofNat code).toLower = kind (Char.ofNat code)) ∧
    kind '\u03c2' = kind '\u03a3' ∧ kind '\u03c3' = kind '\u03a3' ∧
    ∀ row ∈ lowerRows, ∀ code ∈ rowCodes row, ∀ image ∈ lowerByRow code row,
      (tabledParts image).map kind = (tabledParts code).map kind

instance [DecidableEq α] : Decidable (KeptByRows kind) :=
  inferInstanceAs (Decidable (_ ∧ _))

namespace KeptByRows

theorem lowerChar (hkept : KeptByRows kind) (c : Char) :
    (parts (lowerChar c)).map kind = (decomposeChar c).map kind := by
  obtain ⟨hascii, -, -, hrows⟩ := hkept
  obtain ⟨hsame, hsmall, hcapital, -⟩ := parts_of_no_row
  rw [Text.lowerChar]
  split
  next hcode =>
    have hlower := hascii c.toNat hcode
    have hself : decomposeChar c.toLower = [c.toLower] :=
      forall_ascii (P := fun c => decomposeChar c.toLower = [c.toLower]) hsame
        (decide_eq_true hcode)
    rw [Char.ofNat_toNat] at hlower
    rw [parts_singleton, hself, decomposeChar, if_pos (Nat.lt_trans hcode (by decide)),
      List.map_singleton, List.map_singleton, hlower]
  next =>
    split
    next hdot =>
      have hc : c = '\u0130' := by rw [← Char.ofNat_toNat c, eq_of_beq hdot]
      have hletter : kind 'i' = kind 'I' := hascii 0x49 (by decide)
      rw [hsmall, hc, hcapital, List.map_cons, List.map_cons, hletter]
      rfl
    next =>
      cases hfind : lowerRows.findSome? (lowerByRow c.toNat) with
      | none => exact congrArg (List.map kind) (parts_singleton c)
      | some image =>
          obtain ⟨row, hrow, himage⟩ := List.exists_of_findSome?_eq_some hfind
          have hcode : c.toNat ∈ rowCodes row := by
            rw [mem_rowCodes hrow, himage]
            rfl
          obtain ⟨hsyllable, himages⟩ := valid_of_rows row hrow c.toNat hcode
          obtain ⟨hvalid, hother⟩ := himages image himage
          rw [← toNat_ofNat hvalid] at hother
          rw [Option.map_some, Option.getD_some, parts_singleton, decomposeChar_eq_tabledParts hother,
            decomposeChar_eq_tabledParts hsyllable, toNat_ofNat hvalid]
          exact hrows row hrow c.toNat hcode image himage

theorem lowerAfter (hkept : KeptByRows kind) (before cs : List Char) :
    (parts (lowerAfter before cs)).map kind = (parts cs).map kind := by
  induction cs generalizing before with
  | nil => rfl
  | cons c cs ih =>
      rw [Text.lowerAfter, parts_append, parts_cons, List.map_append, List.map_append, ih]
      congr 1
      split
      next hsigma =>
        have hc : c = '\u03a3' := by rw [← Char.ofNat_toNat c, eq_of_beq hsigma]
        obtain ⟨-, -, -, hcapital, hatEnd, hinside⟩ := parts_of_no_row
        obtain ⟨-, hfinal, hmedial, -⟩ := hkept
        rw [hc, hcapital]
        split
        · rw [parts_singleton, hatEnd, List.map_singleton, hfinal]
          rfl
        · rw [parts_singleton, hinside, List.map_singleton, hmedial]
          rfl
      next => exact hkept.lowerChar c

/-- The lower case of a text has parts of the same kinds as the text. -/
theorem lower (hkept : KeptByRows kind) (cs : List Char) :
    (parts (lower cs)).map kind = (parts cs).map kind :=
  hkept.lowerAfter [] cs

/-- So has its canonical form in lower case, in some order. -/
theorem lower_canonical_perm (hkept : KeptByRows kind) (cs : List Char) :
    ((parts (Text.lower (canonical cs))).map kind).Perm ((parts cs).map kind) := by
  rw [hkept.lower]
  exact (parts_canonical_perm cs).map kind

theorem length_parts (hkept : KeptByRows kind) (cs : List Char) :
    (parts (Text.lower (canonical cs))).length = (parts cs).length := by
  have hlength := (hkept.lower_canonical_perm cs).length_eq
  rwa [List.length_map, List.length_map] at hlength

end KeptByRows

/-! ### Characters and their parts -/

/-- What is checked of a class of characters, entry by entry: a character is in it exactly if one of
its parts is. The jamo and the syllables are all in it, or none of them is. -/
def TablesRefine (P : Char → Bool) : Prop :=
  (∀ run ∈ singletonRuns, ∀ item ∈ run.2.zipIdx run.1,
      P (Char.ofNat item.1) = P (Char.ofNat item.2)) ∧
    (∀ entry ∈ decompositions, (entry.2.map Char.ofNat).any P = P (Char.ofNat entry.1)) ∧
    ∀ code ∈ List.range' leadingBase 0x100, P (Char.ofNat code) = P (Char.ofNat leadingBase)

instance : Decidable (TablesRefine P) :=
  inferInstanceAs (Decidable (_ ∧ _))

/-- Whether a character is in a class exactly if one of its parts is. -/
structure PartsRefine (P : Char → Bool) : Prop where
  fits : TablesRefine P
  syllable : ∀ c, isSyllable c.toNat = true → P c = P (Char.ofNat leadingBase)

theorem syllableParts_ne_nil (index : Nat) : syllableParts index ≠ [] := by
  rw [syllableParts]
  split <;> exact List.cons_ne_nil _ _

namespace PartsRefine

theorem any_decomposeChar (hrefine : PartsRefine P) (c : Char) :
    (decomposeChar c).any P = P c := by
  obtain ⟨hruns, hentries, hjamo⟩ := hrefine.fits
  cases hsyllable : isSyllable c.toNat with
  | true =>
      have hindex : c.toNat - syllableBase < syllableCount := by
        simp only [isSyllable, Bool.and_eq_true, decide_eq_true_eq] at hsyllable
        omega
      have hall : ∀ part ∈ syllableParts (c.toNat - syllableBase), P (Char.ofNat part) = P c :=
        fun part hpart => by
          rw [hjamo part (mem_jamo_of_mem_syllableParts hpart hindex), hrefine.syllable c hsyllable]
      rw [decomposeChar_of_syllable hsyllable, Bool.eq_iff_iff, List.any_map, List.any_eq_true]
      constructor
      · rintro ⟨part, hpart, hin⟩
        exact hall part hpart ▸ hin
      · intro hc
        obtain ⟨part, hpart⟩ := List.exists_mem_of_ne_nil _ (syllableParts_ne_nil _)
        exact ⟨part, hpart, (hall part hpart).trans hc⟩
  | false =>
      rw [decomposeChar_of_table hsyllable]
      rcases tableParts_cases c.toNat with ⟨run, hrun, image, hitem, hparts⟩ |
        ⟨entry, hentry, hkey, hparts⟩ | hparts <;> rw [hparts]
      · have hsame := hruns run hrun (image, c.toNat) hitem
        rw [Char.ofNat_toNat] at hsame
        simpa using hsame
      · rw [hentries entry hentry, hkey, Char.ofNat_toNat]
      · simp [Char.ofNat_toNat]

theorem forall_parts_iff (hrefine : PartsRefine P) :
    (∀ d ∈ parts cs, P d = false) ↔ ∀ c ∈ cs, P c = false := by
  constructor
  · intro hparts c hc
    rw [← hrefine.any_decomposeChar c, List.any_eq_false]
    exact fun d hd => by simpa using hparts d (List.mem_flatMap.mpr ⟨c, hc, hd⟩)
  · intro hcs d hd
    obtain ⟨c, hc, hpart⟩ := List.mem_flatMap.mp hd
    have hnone := hcs c hc
    rw [← hrefine.any_decomposeChar c, List.any_eq_false] at hnone
    simpa using hnone d hpart

/-- A text in normal form has characters of the class exactly if the text has, if the kinds that
lower case keeps tell what is in the class. -/
theorem forall_lower_canonical_iff (hrefine : PartsRefine P) (hkept : KeptByRows kind)
    {tell : α → Bool} (htell : ∀ c, P c = tell (kind c)) :
    (∀ c ∈ lower (canonical cs), P c = false) ↔ ∀ c ∈ cs, P c = false := by
  have hparts : ∀ ds, (∀ d ∈ parts ds, P d = false) ↔
      ∀ k ∈ (parts ds).map kind, tell k = false := by
    intro ds
    rw [List.forall_mem_map]
    exact forall₂_congr fun d _ => by rw [htell]
  calc (∀ c ∈ lower (canonical cs), P c = false)
    _ ↔ ∀ d ∈ parts (lower (canonical cs)), P d = false := hrefine.forall_parts_iff.symm
    _ ↔ ∀ d ∈ parts cs, P d = false := by
      rw [hparts, hparts]
      exact forall_congr' fun k => by rw [(hkept.lower_canonical_perm cs).mem_iff]
    _ ↔ ∀ c ∈ cs, P c = false := hrefine.forall_parts_iff

end PartsRefine

theorem decomposeChar_ne_nil (c : Char) : decomposeChar c ≠ [] := by
  have hrefine : PartsRefine fun _ => true := ⟨by decide +kernel, fun _ _ => rfl⟩
  intro hnil
  have hany := hrefine.any_decomposeChar c
  rw [hnil] at hany
  cases hany

/-- Something that is a part of a text, and has as many parts, is the whole text. -/
theorem eq_nil_of_length_parts {front back : List Char}
    (hlength : (parts (front ++ cs ++ back)).length = (parts cs).length) :
    front = [] ∧ back = [] := by
  have hpos : ∀ ds : List Char, (parts ds).length = 0 → ds = [] := by
    intro ds hds
    cases ds with
    | nil => rfl
    | cons d ds =>
        rw [parts_cons, List.length_eq_zero_iff, List.append_eq_nil_iff] at hds
        exact absurd hds.1 (decomposeChar_ne_nil d)
  rw [parts_append, parts_append, List.length_append, List.length_append] at hlength
  exact ⟨hpos front (by omega), hpos back (by omega)⟩

end Apprentice.Text
