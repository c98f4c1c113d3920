/-
This file writes octets in the Huffman code and reads them back. The codes follow each other bit
by bit: they are gathered in a number of 64 bits, from which octets are taken as soon as they are
whole, and the last octet is filled up with ones. Reading stops at the end of a string; without
one, fewer than eight bits may be left after the last code, all of them ones.
-/

import WebFetch.Hpack.Error
import WebFetch.Hpack.Huffman.Tree
import WebFetch.Hpack.Huffman.Trie

namespace WebFetch.Hpack.Huffman

/-- Reads bits from a place of the array, where `pending` bits were read since the last symbol and
`ones` says whether all of them are ones. The octets read so far are given last first. Nothing comes
of a place outside the array. -/
def decodeFrom (here pending : Nat) (ones : Bool) (decoded : Octets) :
    List Bool → Option (Except HuffmanError Octets)
  | [] => some (if 8 ≤ pending ∨ ones = false then .error .invalidPadding else .ok decoded.reverse)
  | bit :: rest => do
    let next := (← trie[here]?).branch bit
    if next = 0 then some (.error .invalidCode)
    else
      match (← trie[next]?).symbol? with
      | none => decodeFrom next (pending + 1) (ones && bit) decoded rest
      | some symbol =>
        if symbol = endOfString then some (.ok decoded.reverse)
        else decodeFrom 0 0 true (UInt8.ofNat symbol :: decoded) rest

/-- The octets that octets in the code stand for. -/
def decode (octets : Octets) : Except HuffmanError Octets :=
  (decodeFrom 0 0 true [] (Bits.ofOctets octets)).getD (.error .invalidCode)

/-- Codes that are put together to octets. -/
structure Packing where
  /-- The octets that are whole, last first. -/
  whole : Octets
  /-- The number that the bits left over denote. -/
  left : UInt64
  /-- How many bits are left over. -/
  count : Nat

namespace Packing

def empty : Packing := ⟨[], 0, 0⟩

/-- Takes octets off the front of `count` bits as long as there are eight. The octets before them
are given last first. -/
def takeWhole (bits : UInt64) : (count : Nat) → Octets → Octets × Nat
  | count + 8, whole => takeWhole bits count ((bits >>> UInt64.ofNat count).toUInt8 :: whole)
  | count, whole => (whole, count)

/-- The packing with the last `length` bits of a number after the others. -/
def push (packing : Packing) (number length : Nat) : Packing :=
  let bits := packing.left <<< UInt64.ofNat length ||| UInt64.ofNat number
  let (whole, count) := takeWhole bits (packing.count + length) packing.whole
  ⟨whole, bits &&& ((1 <<< UInt64.ofNat count) - 1), count⟩

def pushOctet (packing : Packing) (octet : UInt8) : Packing :=
  match codes[octet.toNat]? with
  | some (number, length) => packing.push number length
  | none => packing

/-- The octets, of which the last is filled up with ones. -/
def finish (packing : Packing) : Octets :=
  if packing.count = 0 then packing.whole.reverse
  else
    let missing := UInt64.ofNat (8 - packing.count)
    let last := packing.left <<< missing ||| ((1 <<< missing) - 1)
    (last.toUInt8 :: packing.whole).reverse

end Packing

/-- Octets in the code. -/
def encode (octets : Octets) : Octets :=
  (octets.foldl Packing.pushOctet .empty).finish

/-- The length of a code. -/
def codeLength (octet : UInt8) : Nat :=
  match codes[octet.toNat]? with
  | some (_, length) => length
  | none => 0

/-- The number of octets that octets take in the code. -/
def encodedLength (octets : Octets) : Nat :=
  (octets.foldl (fun total octet => total + codeLength octet) 0 + 7) / 8

end WebFetch.Hpack.Huffman
