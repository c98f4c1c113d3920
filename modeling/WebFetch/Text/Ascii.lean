/-
This file compares texts without regard to the case of ASCII letters. No other character has a
case here.
-/

import WebFetch.Octets

namespace WebFetch.Ascii

/-- The text with its ASCII letters in lower case. -/
def lower (text : String) : String :=
  String.ofList (text.toList.map Char.toLower)

/-- Whether two texts differ at most in the case of ASCII letters. -/
def sameIgnoringCase (left right : String) : Bool :=
  left.toList.map Char.toLower == right.toList.map Char.toLower

/-- The octet with an ASCII capital letter made small. -/
def lowerOctet (octet : UInt8) : UInt8 :=
  if 0x41 ≤ octet ∧ octet ≤ 0x5a then octet + 0x20 else octet

def octet (character : Char) : UInt8 := UInt8.ofNat character.toNat

def octets (text : String) : Octets := text.toList.map octet

end WebFetch.Ascii
