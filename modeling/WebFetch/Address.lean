/-
This file reads and prints internet addresses. An address of 32 bits is written as four decimal
numbers, one of 128 bits as eight hexadecimal groups of which a run of zeros may be left out and
the last two may be written as an address of 32 bits.
-/

import WebFetch.Cut
import WebFetch.Text.Numeral
import WebFetch.Word

namespace WebFetch

inductive Address where
  /-- An address of 32 bits as its four octets. -/
  | v4 (octets : List Nat)
  /-- An address of 128 bits as its eight groups of 16 bits. -/
  | v6 (groups : List Nat)
  deriving DecidableEq, Repr

namespace Address

/-! ### Reading -/

/-- Reads a number of at most `limit` digits at the beginning of a text. A text with more digits
holds no such number. -/
def number? (radix limit : Nat) (text : List Char) : Option (Nat × List Char) :=
  let digits := text.takeWhile fun character => (Numeral.digit? radix character).isSome
  if digits.length = 0 ∨ limit < digits.length then none
  else
    match Numeral.extend radix wordLimit 0 digits with
    | .ok value => some (value, text.drop digits.length)
    | .error _ => none

/-- Reads an octet in decimal, without a leading zero, at the beginning of a text. -/
def octet? (text : List Char) : Option (Nat × List Char) :=
  match number? 10 3 text with
  | some (value, rest) =>
    if value < 256 ∧ (text.head? = some '0' → rest.length + 1 = text.length) then
      some (value, rest)
    else none
  | none => none

/-- Reads a character at the beginning of a text. -/
def character? (expected : Char) : List Char → Option (List Char)
  | first :: rest => if first = expected then some rest else none
  | [] => none

/-- Reads four octets with points between them at the beginning of a text. -/
def quad? (text : List Char) : Option (List Nat × List Char) := do
  let (first, rest) ← octet? text
  let rest ← character? '.' rest
  let (second, rest) ← octet? rest
  let rest ← character? '.' rest
  let (third, rest) ← octet? rest
  let rest ← character? '.' rest
  let (fourth, rest) ← octet? rest
  return ([first, second, third, fourth], rest)

/-- The two groups that four octets make. -/
def groupsOfQuad (octets : List Nat) : List Nat :=
  match octets with
  | [first, second, third, fourth] => [first * 256 + second, third * 256 + fourth]
  | _ => []

/-- Reads groups with colons between them at the beginning of a text, `room` of them at most. The
last two of the room may be written as four octets, which ends the groups. The result says
whether they were. -/
def groups (separated : Bool) : (room : Nat) → (text : List Char) → List Nat × Bool × List Char
  | 0, text => ([], false, text)
  | room + 1, text =>
    let start := if separated then character? ':' text else some text
    match start with
    | none => ([], false, text)
    | some start =>
      match if 1 ≤ room then quad? start else none with
      | some (octets, rest) => (groupsOfQuad octets, true, rest)
      | none =>
        match number? 16 4 start with
        | none => ([], false, text)
        | some (group, rest) =>
          let (later, ended, rest) := groups true room rest
          (group :: later, ended, rest)

/-- The eight groups that a text writes. -/
def parseGroups? (text : List Char) : Option (List Nat) :=
  match groups false 8 text with
  | (before, ended, rest) =>
    if before.length = 8 then
      if rest.isEmpty then some before else none
    else if ended then none
    else
      match rest with
      | ':' :: ':' :: rest =>
        let (after, _, rest) := groups false (7 - before.length) rest
        if rest.isEmpty then
          some (before ++ List.replicate (8 - before.length - after.length) 0 ++ after)
        else none
      | _ => none

/-- The address of 32 bits that a text writes. -/
def parseV4? (text : List Char) : Option Address :=
  match quad? text with
  | some (octets, []) => some (.v4 octets)
  | _ => none

/-- The address of 128 bits that a text writes. -/
def parseV6? (text : List Char) : Option Address :=
  (parseGroups? text).map .v6

def parse? (text : List Char) : Option Address :=
  (parseV4? text).orElse fun _ => parseV6? text

/-! ### Printing -/

/-- The first longest run of zeros among groups: where it begins and how long it is. -/
def longestZeros (groups : List Nat) : Nat × Nat :=
  (List.range groups.length).foldl (fun best start =>
    let run := ((groups.drop start).takeWhile (· == 0)).length
    if best.2 < run then (start, run) else best) (0, 0)

/-- Groups with colons between them. -/
def printGroups (groups : List Nat) : String :=
  String.intercalate ":" (groups.map fun group => String.ofList (Nat.toDigits 16 group))

/-- Octets with points between them. -/
def printOctets (octets : List Nat) : String :=
  String.intercalate "." (octets.map Nat.repr)

/-- The text of an address. Of 128 bits, a run of at least two groups of zeros is left out, and an
address of 32 bits in its place among them is shown as such. -/
def print : Address → String
  | .v4 octets => printOctets octets
  | .v6 groups =>
    match groups with
    | [0, 0, 0, 0, 0, 0xffff, high, low] =>
      "::ffff:" ++ printOctets [high / 256, high % 256, low / 256, low % 256]
    | groups =>
      let (start, run) := longestZeros groups
      if 1 < run then
        printGroups (groups.take start) ++ "::" ++ printGroups (groups.drop (start + run))
      else printGroups groups

/-- The text of an address with a port. -/
def printWithPort (address : Address) (port : UInt16) : String :=
  match address with
  | .v4 _ => address.print ++ ":" ++ port.toNat.repr
  | .v6 _ => "[" ++ address.print ++ "]:" ++ port.toNat.repr

end Address

end WebFetch
