/-
This file writes characters as UTF-8 and reads them back. Reading is a machine that takes one
octet at a time and knows how many more the current character needs and in which range the next
one has to lie; a sequence that cannot be completed yields one invalid piece, and the octet that
did not fit begins the next piece.
-/

import WebFetch.Octets

namespace WebFetch.Utf8

/-! ### Writing -/

def encodeCharacter (character : Char) : Octets :=
  let code := character.toNat
  let trail (value : Nat) : UInt8 := UInt8.ofNat (0x80 + value % 64)
  if code < 0x80 then [UInt8.ofNat code]
  else if code < 0x800 then [UInt8.ofNat (0xc0 + code / 64), trail code]
  else if code < 0x10000 then
    [UInt8.ofNat (0xe0 + code / 4096), trail (code / 64), trail code]
  else
    [UInt8.ofNat (0xf0 + code / 262144), trail (code / 4096), trail (code / 64), trail code]

def encodeAll (text : List Char) : Octets :=
  text.flatMap encodeCharacter

def encode (text : String) : Octets :=
  encodeAll text.toList

/-! ### Reading -/

/-- The state of reading: how many octets the current character still needs, the range of the
next one, the bits read so far, and the pieces read before, newest first. An invalid piece is
`none`. -/
structure Reader where
  needed : Nat
  lowest : UInt8
  highest : UInt8
  bits : Nat
  pieces : List (Option Char)

namespace Reader

/-- The state between two characters. -/
def between (pieces : List (Option Char)) : Reader :=
  ⟨0, 0x80, 0xbf, 0, pieces⟩

/-- Takes the first octet of a character. -/
def begin (pieces : List (Option Char)) (octet : UInt8) : Reader :=
  if octet < 0x80 then between (some (Char.ofNat octet.toNat) :: pieces)
  else if 0xc2 ≤ octet ∧ octet ≤ 0xdf then ⟨1, 0x80, 0xbf, octet.toNat % 32, pieces⟩
  else if octet = 0xe0 then ⟨2, 0xa0, 0xbf, 0, pieces⟩
  else if octet = 0xed then ⟨2, 0x80, 0x9f, 13, pieces⟩
  else if 0xe1 ≤ octet ∧ octet ≤ 0xef then ⟨2, 0x80, 0xbf, octet.toNat % 16, pieces⟩
  else if octet = 0xf0 then ⟨3, 0x90, 0xbf, 0, pieces⟩
  else if 0xf1 ≤ octet ∧ octet ≤ 0xf3 then ⟨3, 0x80, 0xbf, octet.toNat % 8, pieces⟩
  else if octet = 0xf4 then ⟨3, 0x80, 0x8f, 4, pieces⟩
  else between (none :: pieces)

def step (reader : Reader) (octet : UInt8) : Reader :=
  if reader.needed = 0 then begin reader.pieces octet
  else if reader.lowest ≤ octet ∧ octet ≤ reader.highest then
    let bits := reader.bits * 64 + octet.toNat % 64
    if reader.needed = 1 then between (some (Char.ofNat bits) :: reader.pieces)
    else ⟨reader.needed - 1, 0x80, 0xbf, bits, reader.pieces⟩
  else begin (none :: reader.pieces) octet

/-- The pieces in order. A character that was cut short is invalid. -/
def finish (reader : Reader) : List (Option Char) :=
  if reader.needed = 0 then reader.pieces.reverse else (none :: reader.pieces).reverse

end Reader

/-- The pieces of octets: characters, and `none` for each longest invalid beginning of one. -/
def pieces (octets : Octets) : List (Option Char) :=
  (octets.foldl Reader.step (Reader.between [])).finish

/-- The character shown for an invalid piece. -/
def replacement : Char := Char.ofNat 0xfffd

/-- The characters of octets, a replacement for each invalid piece. -/
def lossy (octets : Octets) : List Char :=
  (pieces octets).map fun piece => piece.getD replacement

/-- The text of octets, a replacement for each invalid piece. -/
def lossyText (octets : Octets) : String :=
  String.ofList (lossy octets)

/-- The characters of octets, if no piece is invalid. -/
def decode? (octets : Octets) : Option (List Char) :=
  let found := pieces octets
  if found.all Option.isSome then some (found.filterMap id) else none

end WebFetch.Utf8
