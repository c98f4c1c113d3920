/-
This file lays the Huffman code out as an array of nodes, which is what reading walks along. A node
names the places of its two branches in the array. Place zero is the root, which is no branch of
any node, so a branch of zero says that there is none.
-/

import WebFetch.Hpack.Huffman.Code

namespace WebFetch.Hpack.Huffman

structure Node where
  /-- The place to which each bit leads, or zero. -/
  branch : Bool → Nat
  /-- The symbol whose code leads here. -/
  symbol? : Option Nat

namespace Node

/-- A node that leads nowhere and to which no code leads. -/
def blank : Node := ⟨fun _ => 0, none⟩

/-- The node with another place for a bit. -/
def withBranch (node : Node) (bit : Bool) (place : Nat) : Node :=
  { node with branch := fun other => if other = bit then place else node.branch other }

/-- The node as the end of the code of a symbol. -/
def withSymbol (node : Node) (symbol : Nat) : Node :=
  { node with symbol? := some symbol }

end Node

abbrev Trie := Array Node

namespace Trie

/-- The array in which nothing but the root is. -/
def empty : Trie := #[.blank]

/-- The array with a new node, to which a bit leads from a place. -/
def grow (trie : Trie) (here : Nat) (bit : Bool) : Trie :=
  (trie.modify here fun node => node.withBranch bit trie.size).push .blank

/-- Adds the bits of a code from a place on. A place outside the array changes nothing. -/
def insertFrom (symbol : Nat) : List Bool → (here : Nat) → Trie → Trie
  | [], here, trie => trie.modify here fun node => node.withSymbol symbol
  | bit :: rest, here, trie =>
    match trie[here]? with
    | none => trie
    | some node =>
      if node.branch bit = 0 then insertFrom symbol rest trie.size (trie.grow here bit)
      else insertFrom symbol rest (node.branch bit) trie

/-- The array of codes that are given with their symbols. -/
def ofCodes (codes : List (List Bool × Nat)) : Trie :=
  codes.foldl (fun trie (code, symbol) => trie.insertFrom symbol code 0) empty

end Trie

/-- The array of the code. -/
def trie : Trie :=
  Trie.ofCodes (codes.zipIdx.map fun ((number, length), symbol) =>
    (Bits.ofNat length number, symbol))

end WebFetch.Hpack.Huffman
