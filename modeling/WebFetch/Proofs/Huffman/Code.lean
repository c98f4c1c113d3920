/-
This file proves that the Huffman code is a complete prefix code. As a tree, the code has a leaf
for each symbol where the bits of the symbol lead, no other leaf, and no missing branch. So bits
always begin with the code of a symbol or are themselves the beginning of one, and no code begins
with another. The facts about the code itself are computed from it; all else follows from them.
-/

import WebFetch.Hpack.Huffman.Tree

namespace WebFetch.Hpack.Huffman

/-! ### The code as a tree -/

namespace Tree

/-- Whether no branch of a tree is missing and every leaf stands where the code of its symbol
leads, if the tree stands where a path leads. -/
def spells (path : List Bool) : Tree → Bool
  | .absent => false
  | .leaf symbol => decide (symbol ≤ endOfString) && bits symbol == path
  | .node zero one => zero.spells (path ++ [false]) && one.spells (path ++ [true])

theorem spells_leaf {path : List Bool} {symbol : Nat} (holds : (leaf symbol).spells path) :
    symbol ≤ endOfString ∧ bits symbol = path := by
  rw [spells, Bool.and_eq_true] at holds
  exact ⟨of_decide_eq_true holds.1, eq_of_beq holds.2⟩

theorem spells_child {path : List Bool} {zero one : Tree} (holds : (node zero one).spells path)
    (bit : Bool) : ((node zero one).child bit).spells (path ++ [bit]) := by
  rw [spells, Bool.and_eq_true] at holds
  cases bit with
  | false => exact holds.1
  | true => exact holds.2

theorem walk_append (tree : Tree) (first second : List Bool) :
    tree.walk (first ++ second) = (tree.walk first).walk second :=
  List.foldl_append

theorem walk_absent (path : List Bool) : absent.walk path = absent := by
  induction path with
  | nil => rfl
  | cons bit rest inductionHypothesis => exact inductionHypothesis

/-- Nothing lies beyond a leaf. -/
theorem walk_leaf_cons (symbol : Nat) (bit : Bool) (rest : List Bool) :
    (leaf symbol).walk (bit :: rest) = absent :=
  walk_absent rest

/-- Bits lead into a tree that has no gaps or pass a leaf of it, where a code ends. -/
theorem walk_cases {tree : Tree} {path : List Bool} (holds : tree.spells path)
    (input : List Bool) :
    (∃ zero one, tree.walk input = node zero one ∧ (node zero one).spells (path ++ input)) ∨
      ∃ begun rest symbol, input = begun ++ rest ∧ symbol ≤ endOfString ∧
        bits symbol = path ++ begun := by
  induction input generalizing tree path with
  | nil =>
    cases tree with
    | absent => cases holds
    | leaf symbol =>
      obtain ⟨small, spelt⟩ := spells_leaf holds
      exact Or.inr ⟨[], [], symbol, rfl, small, by rw [spelt, List.append_nil]⟩
    | node zero one => exact Or.inl ⟨zero, one, rfl, by rwa [List.append_nil]⟩
  | cons bit input inductionHypothesis =>
    cases tree with
    | absent => cases holds
    | leaf symbol =>
      obtain ⟨small, spelt⟩ := spells_leaf holds
      exact Or.inr ⟨[], bit :: input, symbol, rfl, small, by rw [spelt, List.append_nil]⟩
    | node zero one =>
      rw [List.append_cons]
      rcases inductionHypothesis (spells_child holds bit) with
        ⟨nextZero, nextOne, walked, inside⟩ | ⟨begun, rest, symbol, rfl, small, spelt⟩
      · exact Or.inl ⟨nextZero, nextOne, walked, inside⟩
      · exact Or.inr ⟨bit :: begun, rest, symbol, rfl, small, by
          rw [spelt, ← List.append_cons]⟩

/-- A tree without gaps has a leaf. -/
theorem exists_code_of_spells {tree : Tree} {path : List Bool} (holds : tree.spells path) :
    ∃ symbol, symbol ≤ endOfString ∧ path <+: bits symbol := by
  induction tree generalizing path with
  | absent => cases holds
  | leaf symbol =>
    obtain ⟨small, spelt⟩ := spells_leaf holds
    exact ⟨symbol, small, spelt ▸ List.prefix_rfl⟩
  | node zero one zeroHypothesis _ =>
    obtain ⟨symbol, small, longer⟩ := zeroHypothesis (spells_child holds false)
    exact ⟨symbol, small, (List.prefix_append path [false]).trans longer⟩

end Tree

/-! ### The code -/

set_option maxRecDepth 4000 in
theorem tree_spells : tree.spells [] := by decide +kernel

theorem all_walk_bits :
    (List.range (endOfString + 1)).all fun symbol =>
      decide (tree.walk (bits symbol) = .leaf symbol ∧ bits symbol ≠ []) := by
  decide +kernel

theorem walk_bits_and_bits_ne_nil {symbol : Nat} (small : symbol ≤ endOfString) :
    tree.walk (bits symbol) = .leaf symbol ∧ bits symbol ≠ [] :=
  of_decide_eq_true (List.all_eq_true.mp all_walk_bits symbol
    (List.mem_range.mpr (Nat.lt_succ_of_le small)))

/-- The code of a symbol leads to its leaf. -/
theorem walk_bits {symbol : Nat} (small : symbol ≤ endOfString) :
    tree.walk (bits symbol) = .leaf symbol :=
  (walk_bits_and_bits_ne_nil small).1

/-- The bits that lead to the inside of the tree are no code, but those after them may complete
one. -/
theorem exists_code_of_walk {path : List Bool} {zero one : Tree}
    (inside : tree.walk path = .node zero one) (bit : Bool) :
    ∃ symbol, symbol ≤ endOfString ∧ path ++ [bit] <+: bits symbol := by
  rcases Tree.walk_cases tree_spells path with
    ⟨foundZero, foundOne, walked, holds⟩ | ⟨begun, rest, symbol, rfl, small, spelt⟩
  · exact Tree.exists_code_of_spells (Tree.spells_child holds bit)
  · -- A path that has passed a leaf ends at the leaf or outside the tree.
    rw [Tree.walk_append, ← List.nil_append begun, ← spelt, walk_bits small] at inside
    cases rest with
    | nil => cases inside
    | cons next rest =>
      rw [Tree.walk_leaf_cons] at inside
      cases inside

/-- Bits begin with a code, or the tree goes on where they lead. -/
theorem exists_code_or_walk (input : List Bool) :
    (∃ zero one, tree.walk input = .node zero one) ∨
      ∃ symbol rest, symbol ≤ endOfString ∧ input = bits symbol ++ rest := by
  rcases Tree.walk_cases tree_spells input with
    ⟨zero, one, walked, _⟩ | ⟨begun, rest, symbol, rfl, small, spelt⟩
  · exact Or.inl ⟨zero, one, walked⟩
  · exact Or.inr ⟨symbol, rest, small, by rw [spelt, List.nil_append]⟩

/-- The tree goes on before the last bit of a path that leads somewhere. -/
theorem exists_node_of_walk_concat {path : List Bool} {bit : Bool}
    (led : tree.walk (path ++ [bit]) ≠ .absent) :
    ∃ zero one, tree.walk path = .node zero one := by
  rw [Tree.walk_append] at led
  cases walked : tree.walk path with
  | absent => exact absurd (by rw [walked]; rfl) led
  | leaf symbol => exact absurd (by rw [walked]; rfl) led
  | node zero one => exact ⟨zero, one, rfl⟩

/-- A code is not empty, and the tree goes on before its last bit. -/
theorem exists_bits_eq_concat {symbol : Nat} (small : symbol ≤ endOfString) :
    ∃ path bit zero one, bits symbol = path ++ [bit] ∧ tree.walk path = .node zero one := by
  obtain ⟨leads, occupied⟩ := walk_bits_and_bits_ne_nil small
  rcases List.eq_nil_or_concat (bits symbol) with empty | ⟨path, bit, spelt⟩
  · exact absurd empty occupied
  · rw [List.concat_eq_append] at spelt
    rw [spelt] at leads
    have led : tree.walk (path ++ [bit]) ≠ .absent := by
      rw [leads]
      exact Tree.noConfusion
    obtain ⟨zero, one, inside⟩ := exists_node_of_walk_concat led
    exact ⟨path, bit, zero, one, spelt, inside⟩

end WebFetch.Hpack.Huffman
