/-
This file reads octets as bits, the most significant first.
-/

import WebFetch.Octets

namespace WebFetch.Bits

/-- The last `count` bits of a number, most significant first. -/
def ofNat (count value : Nat) : List Bool :=
  (List.range count).reverse.map value.testBit

/-- The number that bits denote, most significant first. -/
def toNat (bits : List Bool) : Nat :=
  bits.foldl (fun value bit => 2 * value + bit.toNat) 0

def ofOctets (octets : Octets) : List Bool :=
  octets.flatMap fun octet => ofNat 8 octet.toNat

end WebFetch.Bits
