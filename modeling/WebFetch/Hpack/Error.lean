/-
This file says why a header block is refused. Octets that are missing are reported by their offset
in the block, which is known from how many octets are left.
-/

import WebFetch.Octets.Window

namespace WebFetch

/-- Why octets are not in the Huffman code. -/
inductive HuffmanError where
  /-- Bits that begin no code. -/
  | invalidCode
  /-- Bits after the last code that are no padding. -/
  | invalidPadding
  deriving DecidableEq, Repr

def HuffmanError.message : HuffmanError → String
  | .invalidCode => "invalid huffman code"
  | .invalidPadding => "invalid huffman padding"

/-- Why a header block is refused. -/
inductive HpackError where
  | range (error : RangeError)
  | huffman (error : HuffmanError)
  /-- An octet that begins no instruction. There is none. -/
  | unknownRepresentation (octet : UInt8)
  | indexNotFound (index : Nat)
  | integerOverflow
  deriving DecidableEq, Repr

def HpackError.message : HpackError → String
  | .range error => "hpack: " ++ error.message
  | .huffman error => "hpack: " ++ error.message
  | .unknownRepresentation octet =>
    "hpack: unknown representation (leading octet 0x" ++ Octets.toHex [octet] ++ ")"
  | .indexNotFound index => s!"hpack: index {index} not found in header table"
  | .integerOverflow => "hpack: integer overflow"

namespace Hpack

/-- The error of asking for `length` octets where only `rest` is left of a block of `size`. -/
def missing (size length : Nat) (rest : Octets) : HpackError :=
  let offset := size - rest.length
  if wordLimit ≤ offset + length then .range .overflow
  else .range (.outOfRange offset length size)

/-- The first `length` of the octets left of a block of `size`, and what follows them. -/
def takeOctets (size length : Nat) (rest : Octets) : Except HpackError (Octets × Octets) :=
  let taken := rest.take length
  if taken.length < length then .error (missing size length rest)
  else .ok (taken, rest.drop length)

/-- Taking octets leaves no more than there were. -/
theorem length_le_of_takeOctets {size length : Nat} {octets taken rest : Octets}
    (found : takeOctets size length octets = .ok (taken, rest)) :
    rest.length ≤ octets.length := by
  simp only [takeOctets] at found
  split at found
  · simp at found
  · cases found
    simp

end Hpack

end WebFetch
