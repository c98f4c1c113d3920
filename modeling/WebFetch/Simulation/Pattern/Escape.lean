/-
This file reads escapes, by which patterns write characters that otherwise have a meaning, kinds
of characters, and the edges of texts and words. Patterns know the case and the kind of ASCII
characters only.
-/

import WebFetch.Text.Numeral

namespace WebFetch.Simulation.Pattern

/-- How the characters of a pattern are taken. -/
structure Flags where
  ignoresCase : Bool
  /-- Whether case and kind are asked of all characters, and not of ASCII only. -/
  unicode : Bool
  deriving DecidableEq, Repr

/-- The flags at the beginning of a pattern. -/
def Flags.initial : Flags := ⟨false, true⟩

/-- Whether characters can be compared. The case of all characters is not known. -/
def Flags.compares (flags : Flags) : Bool := !(flags.ignoresCase && flags.unicode)

/-- What an escape stands for. -/
inductive Escape where
  | character (code : Nat)
  /-- An octet by its two digits, which is a character if those are below `80`. -/
  | octet (code : Nat)
  /-- The characters of a kind, or all others. -/
  | kind (others : Bool)
  | textEdge
  | wordEdge
  deriving DecidableEq, Repr

namespace Escape

/-- The code that so many hexadecimal digits write, if there is a character of it. -/
def code? (count : Nat) (text : List Char) : Option (Nat × List Char) :=
  let digits := text.take count
  match Numeral.extend 16 0x110000 0 digits with
  | .error _ => none
  | .ok code =>
    if digits.length = count ∧ (code < 0xd800 ∨ 0xdfff < code) then some (code, text.drop count)
    else none

/-- The letters of control characters, with their codes. -/
def controls : List (Char × Nat) :=
  [('a', 0x07), ('t', 0x09), ('n', 0x0a), ('v', 0x0b), ('f', 0x0c), ('r', 0x0d)]

/-- The escape that follows a backslash, and what follows it. Other letters and digits than those
that are named here are no escapes. -/
def parse? : List Char → Option (Escape × List Char)
  | [] => none
  | 'x' :: rest => (code? 2 rest).map fun (code, rest) => (octet code, rest)
  | 'u' :: rest => (code? 4 rest).map fun (code, rest) => (character code, rest)
  | 'U' :: rest => (code? 8 rest).map fun (code, rest) => (character code, rest)
  | mark :: rest =>
    if "dsw".toList.contains mark then some (kind false, rest)
    else if "DSW".toList.contains mark then some (kind true, rest)
    else if "Az".toList.contains mark then some (textEdge, rest)
    else if "bB<>".toList.contains mark then some (wordEdge, rest)
    else
      match controls.find? fun (letter, _) => letter == mark with
      | some (_, code) => some (character code, rest)
      | none =>
        if mark.isAlphanum || decide (0x7f < mark.toNat) then none
        else some (character mark.toNat, rest)

/-- Whether an escape can be used outside brackets. -/
def isAllowed (flags : Flags) : Escape → Bool
  | character _ => flags.compares
  | octet code => flags.compares && (flags.unicode || decide (code < 0x80))
  | kind others => !flags.unicode && !others
  | textEdge => true
  | wordEdge => !flags.unicode

end Escape

end WebFetch.Simulation.Pattern
