/-
This file holds the strings of header blocks: a bit that says whether the string is in the Huffman
code, the number of its octets, and the octets.
-/

import WebFetch.Hpack.Huffman.Coding
import WebFetch.Hpack.Integer
import WebFetch.Sequenced

namespace WebFetch.Hpack.StringLiteral

/-- Whether a string that begins with an octet is in the Huffman code. -/
def isHuffman (octet : UInt8) : Bool := decide (128 ≤ octet)

/-- The octets that octets denote, which may be in the Huffman code. -/
def unpack (huffman : Bool) (raw : Octets) : Except HpackError Octets :=
  if huffman then (Huffman.decode raw).mapError .huffman else .ok raw

/-- The string at the front of the octets left of a block of `size`, and the octets after it. -/
def decode (size : Nat) : Octets → Except HpackError (Octets × Octets)
  | [] => .error (missing size 1 [])
  | octet :: rest => do
    let (length, rest) ← Integer.decode size 7 (octet :: rest)
    let (raw, rest) ← takeOctets size length rest
    let value ← unpack (isHuffman octet) raw
    return (value, rest)

/-- Reading a string uses up at least one octet. -/
theorem length_lt_of_decode {size : Nat} {octets value rest : Octets}
    (found : decode size octets = .ok (value, rest)) : rest.length < octets.length := by
  cases octets with
  | nil => cases found
  | cons octet octets =>
    obtain ⟨⟨length, afterLength⟩, lengthRead, found⟩ := exists_ok_of_bind found
    obtain ⟨⟨raw, afterRaw⟩, taken, found⟩ := exists_ok_of_bind found
    obtain ⟨unpacked, unpacking, found⟩ := exists_ok_of_bind found
    cases found
    calc rest.length
      _ ≤ afterLength.length := length_le_of_takeOctets taken
      _ < (octet :: octets).length := Integer.length_lt_of_decode lengthRead

/-- The string at an offset of octets, and the number of octets it takes. -/
def decodeAt (octets : Octets) (offset : Nat) : Except HpackError (Octets × Nat) := do
  let _ ← ((Window.mk octets).bytes offset 1).mapError .range
  let (value, rest) ← decode octets.length (octets.drop offset)
  return (value, octets.length - offset - rest.length)

/-- A string, in the Huffman code or as it is. -/
def encode (huffman : Bool) (octets : Octets) : Octets :=
  if huffman then
    let coded := Huffman.encode octets
    Integer.encode 7 0x80 coded.length ++ coded
  else Integer.encode 7 0x00 octets.length ++ octets

end WebFetch.Hpack.StringLiteral
