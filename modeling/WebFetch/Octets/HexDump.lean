/-
This file prints octets as a dump: sixteen octets to a line, each as two digits and a space, and
from a fixed column on one character for each octet. A dump may be cut off after a number of
octets, which its last line then says.
-/

import WebFetch.Octets

namespace WebFetch.HexDump

/-- How many octets a line shows. -/
def lineOctets : Nat := 16

/-- The column at which the characters of a line begin. -/
def characterColumn : Nat := lineOctets * 3 + 2

/-- What the last line says when octets were left out. -/
def cutMark : List Char := "snipped...".toList

/-- The character that stands for an octet: itself if it is printable ASCII, else a point. -/
def character (octet : UInt8) : Char :=
  if 0x20 ≤ octet ∧ octet ≤ 0x7e then Char.ofNat octet.toNat else '.'

/-- One line of a dump. The mark, if any, follows the digits. -/
def line (mark : List Char) (octets : Octets) : List Char :=
  let digits := octets.flatMap (fun octet => Octets.hexDigits octet ++ [' ']) ++ mark
  digits ++ List.replicate (characterColumn - digits.length) ' ' ++ octets.map character ++ ['\n']

/-- The lines of a dump, the last of which carries the mark. -/
def lines (mark : List Char) (octets : Octets) : List (List Char) :=
  match octets with
  | [] => []
  | octet :: rest =>
    let later := rest.drop (lineOctets - 1)
    let first := octet :: rest.take (lineOctets - 1)
    match later with
    | [] => [line mark first]
    | _ :: _ => line [] first :: lines mark later
  termination_by octets.length
  decreasing_by simp only [List.length_drop, List.length_cons]; omega

/-- The octets that a dump limited to `limit` octets shows. No limit is written as zero. -/
def shown (octets : Octets) (limit : Nat) : Octets :=
  if limit = 0 then octets else octets.take limit

/-- The dump of octets, cut off after `limit` octets unless that is zero. -/
def render (octets : Octets) (limit : Nat) : String :=
  let mark := if limit ≠ 0 ∧ limit < octets.length then cutMark else []
  String.ofList (lines mark (shown octets limit)).flatten

end WebFetch.HexDump
