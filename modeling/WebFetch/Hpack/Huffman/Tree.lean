/-
This file arranges the Huffman code as a tree: from the root, each bit leads to one of two
branches, and where a code ends there is a leaf with its symbol.
-/

import WebFetch.Hpack.Huffman.Code

namespace WebFetch.Hpack.Huffman

inductive Tree where
  /-- No code begins with the bits that lead here. -/
  | absent
  /-- The bits that lead here are the code of a symbol. -/
  | leaf (symbol : Nat)
  | node (zero one : Tree)
  deriving DecidableEq, Repr

namespace Tree

/-- The branch that a bit leads to. -/
def child : Tree → Bool → Tree
  | .node zero one, bit => if bit then one else zero
  | _, _ => .absent

/-- The tree with a code added. -/
def insert (symbol : Nat) : List Bool → Tree → Tree
  | [], _ => .leaf symbol
  | bit :: rest, tree =>
    if bit then .node (tree.child false) (insert symbol rest (tree.child true))
    else .node (insert symbol rest (tree.child false)) (tree.child true)

/-- Where bits lead. -/
def walk (tree : Tree) (path : List Bool) : Tree := path.foldl child tree

def symbol? : Tree → Option Nat
  | .leaf symbol => some symbol
  | _ => none

/-- The number of nodes and leaves. -/
def size : Tree → Nat
  | .absent => 0
  | .leaf _ => 1
  | .node zero one => zero.size + one.size + 1

end Tree

def tree : Tree :=
  codes.zipIdx.foldl (fun tree ((number, length), symbol) =>
    tree.insert symbol (Bits.ofNat length number)) .absent

end WebFetch.Hpack.Huffman
