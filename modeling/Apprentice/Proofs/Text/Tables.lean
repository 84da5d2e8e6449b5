import Apprentice.Proofs.Text.Ascii
import Apprentice.Proofs.Text.Canonical

/-!
# Classes of code points in the tables

Whether decomposition and composition lead out of a class of code points can be read from the
tables, with the Hangul syllables and their jamo apart. A class that they do not lead out of holds
the canonical form of a text if it holds the text.
-/

namespace Apprentice.Text

variable {P : Nat → Prop} {c : Char} {cs : List Char}

/-! ### Where parts and composites come from -/

theorem mem_jamo_of_mem_syllableParts {index part : Nat} (hpart : part ∈ syllableParts index)
    (hindex : index < syllableCount) : part ∈ List.range' leadingBase 0x100 := by
  rw [List.mem_range'_1]
  rw [syllableParts] at hpart
  simp only [syllableCount, leadingCount, vowelCount, trailingCount] at hindex
  by_cases hopen : (index % trailingCount == 0) = true
  · rw [if_pos hopen] at hpart
    simp only [leadingBase, vowelBase, vowelCount, trailingCount, List.mem_cons,
      List.not_mem_nil, or_false] at hpart ⊢
    omega
  · rw [if_neg hopen] at hpart
    simp only [leadingBase, vowelBase, trailingBase, vowelCount, trailingCount, List.mem_cons,
      List.not_mem_nil, or_false] at hpart ⊢
    omega

theorem syllable_of_composeSyllable {first second code : Nat}
    (hcode : composeSyllable first second = some code) :
    syllableBase ≤ code ∧ code < syllableBase + syllableCount := by
  rw [composeSyllable] at hcode
  split at hcode
  next hopen =>
    obtain rfl := Option.some.inj hcode
    simp only [Bool.and_eq_true, decide_eq_true_eq] at hopen
    simp only [syllableBase, syllableCount, leadingBase, vowelBase, leadingCount, vowelCount,
      trailingCount] at hopen ⊢
    omega
  next =>
    split at hcode
    next hclosed =>
      obtain rfl := Option.some.inj hcode
      simp only [Bool.and_eq_true, decide_eq_true_eq, beq_iff_eq] at hclosed
      simp only [syllableBase, syllableCount, trailingBase, leadingCount, vowelCount,
        trailingCount] at hclosed ⊢
      omega
    next => cases hcode

/-- The parts of a code point are in one of the tables, or it is its only part. -/
theorem tableParts_cases (code : Nat) :
    (∃ run ∈ singletonRuns, ∃ image, (image, code) ∈ run.2.zipIdx run.1 ∧
        tableParts code = [image]) ∨
      (∃ entry ∈ decompositions, entry.1 = code ∧ tableParts code = entry.2) ∨
      tableParts code = [code] := by
  rw [tableParts]
  split
  next image himage =>
    obtain ⟨run, hrun, hat⟩ := List.exists_of_findSome?_eq_some himage
    split at hat
    next hle =>
      exact .inl ⟨run, hrun, image, List.mem_zipIdx_iff_le_and_getElem?_sub.mpr ⟨hle, hat⟩, rfl⟩
    next => cases hat
  next =>
    cases hfind : decompositions.find? fun entry => entry.1 == code with
    | none => exact .inr (.inr rfl)
    | some entry =>
        have hkey : entry.1 = code := by simpa using List.find?_some hfind
        exact .inr (.inl ⟨entry, List.mem_of_find?_eq_some hfind, hkey, rfl⟩)

theorem mem_tableParts {code part : Nat} (hpart : part ∈ tableParts code) :
    (∃ run ∈ singletonRuns, (part, code) ∈ run.2.zipIdx run.1) ∨
      (∃ entry ∈ decompositions, entry.1 = code ∧ part ∈ entry.2) ∨
      part = code ∧ tableParts code = [code] := by
  rcases tableParts_cases code with
    ⟨run, hrun, image, hitem, hparts⟩ | ⟨entry, hentry, hkey, hparts⟩ |
    hparts <;> rw [hparts] at hpart
  · exact .inl ⟨run, hrun, List.mem_singleton.mp hpart ▸ hitem⟩
  · exact .inr (.inl ⟨entry, hentry, hkey, hpart⟩)
  · exact .inr (.inr ⟨List.mem_singleton.mp hpart, hparts⟩)

theorem composePair_cases {first second composite : Char}
    (hcomposite : composePair first second = some composite) :
    ∃ code, composite = Char.ofNat code ∧
      ((∃ group ∈ composites, group.1 = second.toNat ∧
          ∃ pair ∈ group.2, pair.1 = first.toNat ∧ pair.2 = code) ∨
        composeSyllable first.toNat second.toNat = some code) := by
  rw [composePair] at hcomposite
  split at hcomposite
  next => cases hcomposite
  next =>
    dsimp only at hcomposite
    obtain ⟨code, hcode, rfl⟩ := Option.map_eq_some_iff.mp hcomposite
    refine ⟨code, rfl, ?_⟩
    rcases Option.or_eq_some_iff.mp hcode with htable | ⟨-, hsyllable⟩
    · obtain ⟨group, hgroup, hcode⟩ := Option.bind_eq_some_iff.mp htable
      obtain ⟨pair, hpair, hcode⟩ := Option.map_eq_some_iff.mp hcode
      exact .inl ⟨group, List.mem_of_find?_eq_some hgroup, by simpa using List.find?_some hgroup,
        pair, List.mem_of_find?_eq_some hpair, by simpa using List.find?_some hpair, hcode⟩
    · exact .inr hsyllable

/-! ### Closed classes -/

/-- What is checked of a class of code points, entry by entry: the tables do not lead out of it, and
it holds the jamo, and zero, which numbers that are no code points stand for. -/
def TableFits (P : Nat → Prop) : Prop :=
  P 0 ∧ (∀ code ∈ List.range' leadingBase 0x100, P code) ∧
    (∀ run ∈ singletonRuns, ∀ item ∈ run.2.zipIdx run.1, P item.2 → P item.1) ∧
    (∀ entry ∈ decompositions, P entry.1 → ∀ part ∈ entry.2, P part) ∧
    ∀ group ∈ composites, P group.1 → ∀ pair ∈ group.2, P pair.1 → P pair.2

instance [DecidablePred P] : Decidable (TableFits P) :=
  inferInstanceAs (Decidable (_ ∧ _))

/-- Whether decomposition and composition do not lead out of a class of code points. -/
structure TableClosed (P : Nat → Prop) : Prop where
  fits : TableFits P
  syllable : ∀ code, syllableBase ≤ code → code < syllableBase + syllableCount → P code

namespace TableClosed

theorem zero (hclosed : TableClosed P) : P 0 :=
  hclosed.fits.1

theorem tableParts (hclosed : TableClosed P) {code : Nat} (hcode : P code) :
    ∀ part ∈ tableParts code, P part := by
  intro part hpart
  obtain ⟨-, -, hruns, hentries, -⟩ := hclosed.fits
  rcases mem_tableParts hpart with ⟨run, hrun, hitem⟩ | ⟨entry, hentry, rfl, hmem⟩ | ⟨rfl, -⟩
  · exact hruns run hrun (part, code) hitem hcode
  · exact hentries entry hentry hcode part hmem
  · exact hcode

theorem decomposeChar (hclosed : TableClosed P) (hc : P c.toNat) :
    ∀ d ∈ decomposeChar c, P d.toNat := by
  intro d hd
  rw [Text.decomposeChar] at hd
  split at hd
  next =>
    obtain rfl := List.mem_singleton.mp hd
    exact hc
  next =>
    split at hd
    next hsyllable =>
      obtain ⟨part, hpart, rfl⟩ := List.mem_map.mp hd
      refine code_ofNat hclosed.zero
        (hclosed.fits.2.1 part (mem_jamo_of_mem_syllableParts hpart ?_))
      simp only [Bool.and_eq_true, decide_eq_true_eq] at hsyllable
      omega
    next =>
      obtain ⟨part, hpart, rfl⟩ := List.mem_map.mp hd
      exact code_ofNat hclosed.zero (hclosed.tableParts hc part hpart)

theorem composePair (hclosed : TableClosed P) {first second composite : Char}
    (hfirst : P first.toNat) (hsecond : P second.toNat)
    (hcomposite : composePair first second = some composite) : P composite.toNat := by
  obtain ⟨code, rfl, ⟨group, hgroup, hkey, pair, hpair, hfirstKey, rfl⟩ | hsyllable⟩ :=
    composePair_cases hcomposite
  · obtain ⟨-, -, -, -, hgroups⟩ := hclosed.fits
    exact code_ofNat hclosed.zero
      (hgroups group hgroup (hkey ▸ hsecond) pair hpair (hfirstKey ▸ hfirst))
  · obtain ⟨hle, hlt⟩ := syllable_of_composeSyllable hsyllable
    exact code_ofNat hclosed.zero (hclosed.syllable code hle hlt)

theorem canonical (hclosed : TableClosed P) (hcs : ∀ c ∈ cs, P c.toNat) :
    ∀ c ∈ canonical cs, P c.toNat :=
  canonical_forall (P := fun c => P c.toNat) (fun _ => hclosed.decomposeChar)
    (fun _ _ _ => hclosed.composePair) hcs

end TableClosed

end Apprentice.Text
