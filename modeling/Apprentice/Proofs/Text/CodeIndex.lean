import Apprentice.Text.CodeRange
import Mathlib.Data.Nat.Bitwise
import Mathlib.Data.Tree.Basic

/-!
# Looking up code points

The character tables are long lists, and a fact about all entries of one table that looks each of
them up in another would go through that other list every time. So a set of code points is kept as
one number, with a bit for each of them, and a sorted table as a search tree. Both are made from
the lists, and what is found in them is in the lists.
-/

namespace Apprentice.Text

/-! ### Sets -/

/-- The set of the given code points. -/
def bitsOf (codes : List Nat) : Nat :=
  codes.foldr (fun code set => set ||| 1 <<< code) 0

theorem testBit_bitsOf (codes : List Nat) (code : Nat) :
    (bitsOf codes).testBit code = true ↔ code ∈ codes := by
  induction codes with
  | nil => simp [bitsOf]
  | cons first codes ih =>
      rw [bitsOf, List.foldr_cons, ← bitsOf, Nat.testBit_or, Bool.or_eq_true, ih, List.mem_cons,
        Nat.one_shiftLeft, Nat.testBit_two_pow, decide_eq_true_eq, or_comm, eq_comm]

theorem testBit_bitsOf_eq_false {codes : List Nat} {code : Nat} :
    (bitsOf codes).testBit code = false ↔ code ∉ codes := by
  rw [← testBit_bitsOf, Bool.not_eq_true]

def rangeBits (ranges : List (Nat × Nat)) : Nat :=
  ranges.foldr (fun range set => set ||| (2 ^ (range.2 + 1 - range.1) - 1) <<< range.1) 0

theorem testBit_rangeBits (ranges : List (Nat × Nat)) (code : Nat) :
    (rangeBits ranges).testBit code = memRanges ranges code := by
  induction ranges with
  | nil => simp [rangeBits, memRanges]
  | cons range ranges ih =>
      rw [rangeBits, List.foldr_cons, ← rangeBits, Nat.testBit_or, ih, Nat.testBit_shiftLeft,
        Nat.testBit_two_pow_sub_one, memRanges, memRanges, List.any_cons, Bool.or_comm]
      congr 1
      rw [Bool.eq_iff_iff]
      simp only [Bool.and_eq_true, decide_eq_true_eq]
      omega

theorem memRanges_of_apart {ranges others : List (Nat × Nat)}
    (hapart : rangeBits ranges &&& rangeBits others = 0) {code : Nat}
    (hcode : memRanges ranges code = true) : memRanges others code = false := by
  have hbit : (rangeBits ranges &&& rangeBits others).testBit code = false := by
    rw [hapart, Nat.zero_testBit]
  rwa [Nat.testBit_and, testBit_rangeBits, testBit_rangeBits, hcode, Bool.true_and] at hbit

/-! ### Search trees -/

variable {α : Type}

def treeItems : BinaryTree α → List α
  | .nil => []
  | .node item left right => treeItems left ++ item :: treeItems right

/-- A tree of the first items of a list, of at most the given depth, and the items that are left. -/
def buildTree : Nat → List α → BinaryTree α × List α
  | 0, items => (.nil, items)
  | depth + 1, items =>
    match buildTree depth items with
    | (left, []) => (left, [])
    | (left, item :: rest) =>
      match buildTree depth rest with
      | (right, rest) => (.node item left right, rest)

theorem treeItems_buildTree (depth : Nat) (items : List α) :
    treeItems (buildTree depth items).1 ++ (buildTree depth items).2 = items := by
  induction depth generalizing items with
  | zero => rfl
  | succ depth ih =>
      have hleft := ih items
      rw [buildTree]
      split
      next left hbuild =>
        rw [hbuild] at hleft
        exact hleft
      next left item rest hbuild =>
        have hright := ih rest
        rw [hbuild] at hleft
        rw [treeItems, List.append_assoc, List.cons_append, hright]
        exact hleft

/-- What a tree whose items are sorted by their codes has for a code. -/
def searchTree? (code : Nat) : BinaryTree (Nat × α) → Option α
  | .nil => none
  | .node item left right =>
    bif code.blt item.1 then searchTree? code left
    else bif item.1.blt code then searchTree? code right
    else some item.2

theorem mem_of_searchTree? {code : Nat} {value : α} {tree : BinaryTree (Nat × α)}
    (hfound : searchTree? code tree = some value) : (code, value) ∈ treeItems tree := by
  induction tree with
  | nil => cases hfound
  | node item left right ihleft ihright =>
      rw [searchTree?] at hfound
      rw [treeItems]
      cases hlt : code.blt item.1 with
      | true =>
          rw [hlt] at hfound
          exact List.mem_append_left _ (ihleft hfound)
      | false =>
          cases hgt : item.1.blt code with
          | true =>
              rw [hlt, hgt] at hfound
              exact List.mem_append_right _ (List.mem_cons_of_mem _ (ihright hfound))
          | false =>
              rw [hlt, hgt] at hfound
              have hcode : item.1 = code := by
                have hle : ¬code < item.1 := by rw [← Nat.blt_eq, hlt]; exact Bool.false_ne_true
                have hge : ¬item.1 < code := by rw [← Nat.blt_eq, hgt]; exact Bool.false_ne_true
                omega
              cases hfound
              rw [← hcode]
              exact List.mem_append_right _ List.mem_cons_self

theorem mem_of_search {depth code : Nat} {value : α} {items : List (Nat × α)}
    (hfound : searchTree? code (buildTree depth items).1 = some value) : (code, value) ∈ items := by
  rw [← treeItems_buildTree depth items]
  exact List.mem_append_left _ (mem_of_searchTree? hfound)

end Apprentice.Text
