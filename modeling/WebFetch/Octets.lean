/-
This file holds octet strings and the numbers written in them. A number is written most
significant octet first in a fixed width, and what the width cannot hold of it is left out.
Lengths of frames have 24 bits and a type of their own.
-/

import WebFetch.Word

namespace WebFetch

abbrev Octets := List UInt8

namespace Octets

/-- The number that octets denote, most significant octet first. -/
def toNat (octets : Octets) : Nat :=
  octets.foldl (fun value octet => value * 256 + octet.toNat) 0

/-- The last `width` octets of a number, most significant octet first. -/
def ofNat : (width value : Nat) → Octets
  | 0, _ => []
  | width + 1, value => ofNat width (value / 256) ++ [UInt8.ofNat value]

theorem length_ofNat (width value : Nat) : (ofNat width value).length = width := by
  induction width generalizing value with
  | zero => rfl
  | succ width inductionHypothesis => simp [ofNat, inductionHypothesis]

/-! ### Hexadecimal digits -/

/-- The digit of a number below sixteen, in lower case. -/
def hexDigit (value : Nat) : Char :=
  if value < 10 then Char.ofNat (48 + value) else Char.ofNat (87 + value)

/-- The two digits of an octet. -/
def hexDigits (octet : UInt8) : List Char :=
  [hexDigit (octet.toNat / 16), hexDigit (octet.toNat % 16)]

/-- Octets as digits, two for each octet and nothing between them. -/
def toHex (octets : Octets) : String :=
  String.ofList (octets.flatMap hexDigits)

end Octets

/-! ### Numbers of 24 bits -/

/-- A number of 24 bits. -/
structure UInt24 where
  toNat : Nat
  toNat_lt : toNat < wordLimit24
  deriving DecidableEq

namespace UInt24

/-- The number as one of 24 bits, if it is small enough. -/
def ofNat? (value : Nat) : Option UInt24 :=
  if small : value < wordLimit24 then some ⟨value, small⟩ else none

/-- The remainder of a number modulo `wordLimit24`. -/
def ofNatModulo (value : Nat) : UInt24 :=
  ⟨value % wordLimit24, Nat.mod_lt _ (by decide)⟩

/-- The three octets of the number. -/
def octets (value : UInt24) : Octets :=
  Octets.ofNat 3 value.toNat

end UInt24

end WebFetch
