import Apprentice.Proofs.Text.CodeIndex
import Apprentice.Proofs.Text.MarkOrder
import Apprentice.Proofs.Text.Tables

/-!
# The canonical form of a canonical form

What composition puts together, decomposition takes apart into the same parts, because the parts of
a composite are those of its first half and, at the end, its second half. Only marks that were
composed with a starter from behind other marks come back at another place, and sorting moves them
back. So a canonical form decomposes to what it was composed of, and is its own canonical form.
-/

namespace Apprentice.Text

variable {c d first second composite starter : Char} {code : Nat} {parts : List Nat}
  {cs skipped : List Char}

/-! ### What the tables have for a code point -/

def runCodes : List Nat :=
  singletonRuns.flatMap fun run => List.range' run.1 run.2.length

def entryCodes : List Nat :=
  decompositions.map fun entry => entry.1

def isSyllable (code : Nat) : Bool :=
  syllableBase ≤ code && code < syllableBase + syllableCount

/-- The parts of a code point that is no syllable and does not decompose into a single one. -/
def parts? (code : Nat) : Option (List Nat) :=
  bif (bitsOf runCodes).testBit code || isSyllable code then none
  else bif (bitsOf entryCodes).testBit code then searchTree? code (buildTree 11 decompositions).1
  else some [code]

/-- Nothing in ASCII decomposes, and the table is sorted. -/
theorem codes_of_tables : (∀ code ∈ runCodes, 0xC0 ≤ code) ∧ (∀ code ∈ entryCodes, 0xC0 ≤ code) ∧
    entryCodes.IsChain (· < ·) := by
  decide +kernel

theorem pairwise_entryCodes : entryCodes.Pairwise (· < ·) :=
  List.isChain_iff_pairwise.mp codes_of_tables.2.2

theorem tableParts_of_not_run (hrun : code ∉ runCodes) : tableParts code =
    ((decompositions.find? fun entry => entry.1 == code).map (·.2)).getD [code] := by
  have hnone : (singletonRuns.findSome? fun run =>
      if run.1 ≤ code then run.2[code - run.1]? else none) = none := by
    rw [List.findSome?_eq_none_iff]
    intro run hmem
    split
    next hle =>
      rw [List.getElem?_eq_none_iff]
      by_contra hlt
      exact hrun (List.mem_flatMap.mpr ⟨run, hmem, List.mem_range'_1.mpr ⟨hle, by omega⟩⟩)
    next => rfl
  rw [tableParts, hnone]

theorem tableParts_of_not_mem (hrun : code ∉ runCodes) (hentry : code ∉ entryCodes) :
    tableParts code = [code] := by
  rw [tableParts_of_not_run hrun, List.find?_eq_none.mpr]
  · rfl
  · intro entry hmem hkey
    exact hentry (List.mem_map.mpr ⟨entry, hmem, eq_of_beq hkey⟩)

theorem tableParts_of_mem (hrun : code ∉ runCodes) (hentry : (code, parts) ∈ decompositions) :
    tableParts code = parts := by
  have hfind : (decompositions.find? fun entry => entry.1 == code) = some (code, parts) := by
    rw [List.find?_eq_some_iff_append]
    obtain ⟨before, after, heq⟩ := List.append_of_mem hentry
    refine ⟨beq_self_eq_true code, before, after, heq, fun entry hmem => ?_⟩
    have hsorted := pairwise_entryCodes
    rw [entryCodes, heq, List.map_append, List.pairwise_append] at hsorted
    have hlt := hsorted.2.2 entry.1 (List.mem_map_of_mem hmem) code List.mem_cons_self
    simpa using Nat.ne_of_lt hlt
  rw [tableParts_of_not_run hrun, hfind]
  rfl

theorem decomposeChar_of_table (hsyllable : isSyllable c.toNat = false) :
    decomposeChar c = (tableParts c.toNat).map Char.ofNat := by
  rw [decomposeChar]
  split
  next hlt =>
    rw [tableParts_of_not_mem]
    · rw [List.map_singleton, Char.ofNat_toNat]
    · exact fun hmem => absurd (codes_of_tables.1 _ hmem) (by omega)
    · exact fun hmem => absurd (codes_of_tables.2.1 _ hmem) (by omega)
  next => rw [if_neg (Bool.not_eq_true _ ▸ hsyllable)]

theorem decomposeChar_of_parts? (hparts : parts? c.toNat = some parts) :
    decomposeChar c = parts.map Char.ofNat := by
  rw [parts?] at hparts
  cases hout : (bitsOf runCodes).testBit c.toNat || isSyllable c.toNat with
  | true =>
      rw [hout] at hparts
      cases hparts
  | false =>
      obtain ⟨hrun, hsyllable⟩ := Bool.or_eq_false_iff.mp hout
      rw [testBit_bitsOf_eq_false] at hrun
      rw [hout, cond_false] at hparts
      rw [decomposeChar_of_table hsyllable]
      cases hentry : (bitsOf entryCodes).testBit c.toNat with
      | true =>
          rw [hentry, cond_true] at hparts
          rw [tableParts_of_mem hrun (mem_of_search hparts)]
      | false =>
          rw [hentry, cond_false] at hparts
          rw [tableParts_of_not_mem hrun (testBit_bitsOf_eq_false.mp hentry), Option.some.inj hparts]

/-- Parts do not decompose any further, and a composite has the parts of its first half and its
second half. -/
theorem parts?_of_tables :
    (∀ run ∈ singletonRuns, ∀ image ∈ run.2, image.isValidChar ∧ parts? image = some [image]) ∧
    (∀ entry ∈ decompositions, ∀ part ∈ entry.2, part.isValidChar ∧ parts? part = some [part]) ∧
    (∀ part ∈ List.range' leadingBase 0x100, part.isValidChar ∧ parts? part = some [part]) ∧
    ∀ group ∈ composites, ∀ pair ∈ group.2, pair.2.isValidChar ∧ (parts? pair.1).isSome = true ∧
      parts? pair.2 = (parts? pair.1).map fun parts => parts ++ [group.1] := by
  decide +kernel

/-! ### Characters -/

theorem toNat_ofNat (hvalid : code.isValidChar) : (Char.ofNat code).toNat = code := by
  rw [Char.ofNat, dif_pos hvalid]
  rfl

theorem decomposeChar_ofNat (hpart : code.isValidChar ∧ parts? code = some [code]) :
    decomposeChar (Char.ofNat code) = [Char.ofNat code] := by
  have hparts : parts? (Char.ofNat code).toNat = some [code] := by
    rw [toNat_ofNat hpart.1]
    exact hpart.2
  exact decomposeChar_of_parts? hparts

theorem decomposeChar_of_syllable (hsyllable : isSyllable c.toNat = true) :
    decomposeChar c = (syllableParts (c.toNat - syllableBase)).map Char.ofNat := by
  have hle : syllableBase ≤ c.toNat := of_decide_eq_true (Bool.and_eq_true_iff.mp hsyllable).1
  rw [decomposeChar, if_neg (Nat.not_lt.mpr (Nat.le_trans (by decide) hle))]
  exact if_pos hsyllable

/-- Parts do not decompose any further. -/
theorem decomposeChar_of_mem (hd : d ∈ decomposeChar c) : decomposeChar d = [d] := by
  obtain ⟨hruns, hentries, hjamo, -⟩ := parts?_of_tables
  cases hsyllable : isSyllable c.toNat with
  | true =>
      rw [decomposeChar_of_syllable hsyllable] at hd
      obtain ⟨part, hpart, rfl⟩ := List.mem_map.mp hd
      refine decomposeChar_ofNat (hjamo part (mem_jamo_of_mem_syllableParts hpart ?_))
      simp only [isSyllable, Bool.and_eq_true, decide_eq_true_eq] at hsyllable
      omega
  | false =>
      have hc := decomposeChar_of_table hsyllable
      rw [hc] at hd
      obtain ⟨part, hpart, rfl⟩ := List.mem_map.mp hd
      rcases mem_tableParts hpart with ⟨run, hrun, hitem⟩ | ⟨entry, hentry, -, hmem⟩ | ⟨rfl, hself⟩
      · exact decomposeChar_ofNat (hruns run hrun part (List.fst_mem_of_mem_zipIdx hitem))
      · exact decomposeChar_ofNat (hentries entry hentry part hmem)
      · rw [hself, List.map_singleton, Char.ofNat_toNat] at hc
        rw [Char.ofNat_toNat, hc]

theorem syllableParts_open {leading vowel : Nat} (hvowel : vowel < vowelCount) :
    syllableParts ((leading * vowelCount + vowel) * trailingCount) =
      [leadingBase + leading, vowelBase + vowel] := by
  simp only [vowelCount] at hvowel
  have hleading : (leading * 21 + vowel) * 28 / (21 * 28) = leading := by omega
  have hrest : (leading * 21 + vowel) * 28 % (21 * 28) / 28 = vowel := by omega
  simp only [syllableParts, vowelCount, trailingCount, hleading, hrest, Nat.mul_mod_left]
  rfl

theorem syllableParts_closed {index trailing : Nat} (hopen : index % trailingCount = 0)
    (hpos : 0 < trailing) (hlt : trailing < trailingCount) :
    syllableParts (index + trailing) = syllableParts index ++ [trailingBase + trailing] := by
  simp only [trailingCount] at hopen hlt
  have hleading : (index + trailing) / (21 * 28) = index / (21 * 28) := by omega
  have hrest : (index + trailing) % (21 * 28) / 28 = index % (21 * 28) / 28 := by omega
  have htrailing : (index + trailing) % 28 = trailing := by omega
  simp only [syllableParts, vowelCount, trailingCount, hleading, hrest, htrailing, hopen]
  rw [if_neg (by simpa using Nat.ne_of_gt hpos), if_pos (beq_self_eq_true 0)]
  rfl

/-- A syllable that was composed has the parts that it was composed of. -/
theorem decomposeChar_of_composeSyllable
    (hcode : composeSyllable first.toNat second.toNat = some code) :
    decomposeChar (Char.ofNat code) = decomposeChar first ++ [second] := by
  obtain ⟨-, -, hjamo, -⟩ := parts?_of_tables
  obtain ⟨hle, hlt⟩ := syllable_of_composeSyllable hcode
  have hvalid : code.isValidChar := by
    simp only [syllableBase, syllableCount, leadingCount, vowelCount, trailingCount] at hlt
    exact .inl (by omega)
  have hsyllable : isSyllable (Char.ofNat code).toNat = true := by
    rw [toNat_ofNat hvalid]
    exact Bool.and_eq_true_iff.mpr ⟨decide_eq_true hle, decide_eq_true hlt⟩
  rw [decomposeChar_of_syllable hsyllable, toNat_ofNat hvalid]
  rw [composeSyllable] at hcode
  split at hcode
  next hopen =>
    simp only [Bool.and_eq_true, decide_eq_true_eq] at hopen
    obtain ⟨⟨⟨hleading, hleadingLt⟩, hvowel⟩, hvowelLt⟩ := hopen
    have hfirst : first.toNat ∈ List.range' leadingBase 0x100 :=
      List.mem_range'_1.mpr ⟨hleading, Nat.lt_trans hleadingLt (by decide)⟩
    have hself := decomposeChar_ofNat (hjamo first.toNat hfirst)
    rw [Char.ofNat_toNat] at hself
    obtain rfl := Option.some.inj hcode
    rw [Nat.add_sub_cancel_left, syllableParts_open (by omega), hself, Nat.add_sub_cancel' hleading,
      Nat.add_sub_cancel' hvowel, List.map_cons, List.map_singleton, Char.ofNat_toNat,
      Char.ofNat_toNat]
    rfl
  next =>
    split at hcode
    next hclosed =>
      simp only [Bool.and_eq_true, decide_eq_true_eq, beq_iff_eq] at hclosed
      obtain ⟨⟨⟨⟨hfirst, hfirstLt⟩, hopen⟩, htrailing⟩, htrailingLt⟩ := hclosed
      have hself : isSyllable first.toNat = true :=
        Bool.and_eq_true_iff.mpr ⟨decide_eq_true hfirst, decide_eq_true hfirstLt⟩
      obtain rfl := Option.some.inj hcode
      rw [decomposeChar_of_syllable hself, Nat.sub_add_comm hfirst,
        syllableParts_closed hopen (by omega) (by omega), List.map_append, List.map_singleton,
        Nat.add_sub_cancel' (Nat.le_of_lt htrailing), Char.ofNat_toNat]
    next => cases hcode

theorem decomposeChar_of_composePair (hcomposite : composePair first second = some composite) :
    decomposeChar composite = decomposeChar first ++ [second] := by
  obtain ⟨code, rfl, ⟨group, hgroup, hkey, pair, hpair, hfirst, rfl⟩ | hsyllable⟩ :=
    composePair_cases hcomposite
  · obtain ⟨hvalid, hsome, hparts⟩ := parts?_of_tables.2.2.2 group hgroup pair hpair
    obtain ⟨parts, hpartsFirst⟩ := Option.isSome_iff_exists.mp hsome
    rw [hpartsFirst, Option.map_some, ← toNat_ofNat hvalid] at hparts
    rw [hfirst] at hpartsFirst
    rw [decomposeChar_of_parts? hparts, decomposeChar_of_parts? hpartsFirst, List.map_append,
      hkey, List.map_singleton, Char.ofNat_toNat]
  · exact decomposeChar_of_composeSyllable hsyllable

/-! ### Texts -/

theorem flatMap_decomposeChar (hcs : ∀ c ∈ cs, decomposeChar c = [c]) :
    cs.flatMap decomposeChar = cs := by
  induction cs with
  | nil => rfl
  | cons c cs ih =>
      obtain ⟨hc, hcs⟩ := List.forall_mem_cons.mp hcs
      rw [List.flatMap_cons, hc, ih hcs]
      rfl

/-- What can be skipped on the way to a mark: marks that do not decompose, the latest first. -/
structure Skipped (skipped : List Char) : Prop where
  marks : ∀ m ∈ skipped, combiningClass m ≠ 0
  simple : ∀ m ∈ skipped, decomposeChar m = [m]
  sorted : skipped.Pairwise fun later earlier => combiningClass earlier ≤ combiningClass later

theorem Skipped.nil : Skipped [] :=
  ⟨List.forall_mem_nil _, List.forall_mem_nil _, .nil⟩

theorem Skipped.cons (hskipped : Skipped skipped) (hclass : combiningClass c ≠ 0)
    (hc : decomposeChar c = [c]) (hordered : Ordered (skipped.head?.toList ++ c :: cs)) :
    Skipped (c :: skipped) where
  marks := List.forall_mem_cons.mpr ⟨hclass, hskipped.marks⟩
  simple := List.forall_mem_cons.mpr ⟨hc, hskipped.simple⟩
  sorted := by
    refine List.pairwise_cons.mpr ⟨fun m hm => ?_, hskipped.sorted⟩
    cases skipped with
    | nil => cases hm
    | cons last skipped =>
        have hlast : combiningClass last ≤ combiningClass c :=
          (List.isChain_cons_cons.mp hordered).1.resolve_left hclass
        rcases List.mem_cons.mp hm with rfl | hm
        · exact hlast
        · exact Nat.le_trans ((List.pairwise_cons.mp hskipped.sorted).1 m hm) hlast

theorem Skipped.lower (hskipped : Skipped skipped)
    (hfree : ¬(skipped.head?.any fun last => combiningClass c ≤ combiningClass last) = true) :
    ∀ m ∈ skipped.reverse, combiningClass m ≠ 0 ∧ combiningClass m < combiningClass c := by
  intro m hm
  have hm := List.mem_reverse.mp hm
  refine ⟨hskipped.marks m hm, ?_⟩
  cases skipped with
  | nil => cases hm
  | cons last skipped =>
      have hlast : combiningClass last < combiningClass c := by simpa using hfree
      rcases List.mem_cons.mp hm with rfl | hm
      · exact hlast
      · exact Nat.lt_of_le_of_lt ((List.pairwise_cons.mp hskipped.sorted).1 m hm) hlast

/-- A mark may be taken out of a sorted text. -/
theorem Ordered.of_free
    (hfree : ¬(skipped.head?.any fun last => combiningClass c ≤ combiningClass last) = true)
    (hordered : Ordered (skipped.head?.toList ++ c :: cs)) :
    Ordered (skipped.head?.toList ++ cs) := by
  cases skipped with
  | nil => exact hordered.tail
  | cons last skipped =>
      have hlast : combiningClass last < combiningClass c := by simpa using hfree
      have hrest : Ordered (c :: cs) := hordered.tail
      cases cs with
      | nil => exact .singleton last
      | cons d cs =>
          refine .cons_cons ?_ hrest.tail
          exact (List.isChain_cons_cons.mp hrest).1.imp_right (Nat.le_of_lt hlast).trans

theorem Ordered.of_head (hordered : Ordered (skipped.head?.toList ++ cs)) : Ordered cs := by
  cases skipped with
  | nil => exact hordered
  | cons last skipped => exact hordered.tail

/-- Decomposing and sorting a text gives the same after composition as before. -/
theorem orderMarks_composeOnto (hskipped : Skipped skipped) (hcs : ∀ c ∈ cs, decomposeChar c = [c])
    (hordered : Ordered (skipped.head?.toList ++ cs)) :
    orderMarks ((composeOnto starter skipped cs).flatMap decomposeChar) =
      orderMarks (decomposeChar starter ++ (skipped.reverse ++ cs)) := by
  have hreverse : ∀ {skipped : List Char}, Skipped skipped →
      skipped.reverse.flatMap decomposeChar = skipped.reverse := fun hskipped =>
    flatMap_decomposeChar fun m hm => hskipped.simple m (List.mem_reverse.mp hm)
  induction cs generalizing starter skipped with
  | nil => rw [composeOnto, List.flatMap_cons, hreverse hskipped, List.append_nil]
  | cons c cs ih =>
      obtain ⟨hc, hcs⟩ := List.forall_mem_cons.mp hcs
      rw [composeOnto]
      split
      next composite hcomposite =>
        split at hcomposite
        next => cases hcomposite
        next hfree =>
          -- the second half of the composite comes back before the skipped marks
          rw [ih hskipped hcs (hordered.of_free hfree), decomposeChar_of_composePair hcomposite,
            List.append_assoc]
          exact orderMarks_append_congr (orderMarks_move (hskipped.lower hfree) cs).symm _
      next =>
        split
        next =>
          rw [List.flatMap_append, List.flatMap_cons, hreverse hskipped, List.append_assoc]
          refine orderMarks_append_congr (orderMarks_append_congr ?_ _) _
          rw [ih .nil hcs hordered.of_head.tail, hc]
          rfl
        next hclass =>
          have hclass : combiningClass c ≠ 0 := by simpa using hclass
          rw [ih (hskipped.cons hclass hc hordered) hcs hordered.of_head, List.reverse_cons,
            List.append_assoc]
          rfl

theorem orderMarks_compose (hcs : ∀ c ∈ cs, decomposeChar c = [c]) (hordered : Ordered cs) :
    orderMarks ((compose cs).flatMap decomposeChar) = cs := by
  induction cs with
  | nil => rfl
  | cons c cs ih =>
      obtain ⟨hc, hrest⟩ := List.forall_mem_cons.mp hcs
      rw [compose]
      split
      next =>
        rw [orderMarks_composeOnto .nil hrest hordered.tail, hc]
        exact orderMarks_of_ordered hordered
      next hclass =>
        rw [List.flatMap_cons, hc, List.singleton_append, orderMarks_mark (by simpa using hclass),
          ih hrest hordered.tail, insertMark_of_ordered hordered]

/-- The canonical form of a text is its own canonical form. -/
theorem canonical_canonical (cs : List Char) : canonical (canonical cs) = canonical cs := by
  by_cases hplain : (cs.all fun c => c.toNat < 0xC0) = true
  · have hself : canonical cs = cs := if_pos hplain
    rw [hself, hself]
  · have hcs : canonical cs = compose (orderMarks (cs.flatMap decomposeChar)) := if_neg hplain
    have hparts : ∀ c ∈ orderMarks (cs.flatMap decomposeChar), decomposeChar c = [c] := by
      intro c hc
      obtain ⟨whole, -, hpart⟩ := List.mem_flatMap.mp (mem_orderMarks.mp hc)
      exact decomposeChar_of_mem hpart
    rw [hcs, canonical]
    split
    · rfl
    · rw [orderMarks_compose hparts (ordered_orderMarks _)]

end Apprentice.Text
