/-
This file reads what stands in the brackets of a pattern: characters, ranges of characters, kinds
of characters, operators between sets, and further brackets.
-/

import WebFetch.Simulation.Pattern.Escape

namespace WebFetch.Simulation.Pattern

/-- What stands in brackets beside operators: a character, or a set of characters. -/
inductive Item where
  | character (code : Nat)
  | set
  deriving DecidableEq, Repr

namespace Item

/-- The item of a code. If only ASCII is known it has to be of ASCII. -/
def ofCode? (flags : Flags) (code : Nat) : Option Item :=
  if flags.unicode || decide (code < 0x80) then some (character code) else none

/-- The item that an escape stands for. -/
def ofEscape? (flags : Flags) : Escape → Option Item
  | .character code => ofCode? flags code
  | .octet code => ofCode? flags code
  | .kind others => if flags.unicode || others then none else some set
  | .textEdge => none
  | .wordEdge => none

/-- The item at the beginning of a text, and what follows it. -/
def parse? (flags : Flags) : List Char → Option (Item × List Char)
  | [] => none
  | '\\' :: rest => do
    let (escape, rest) ← Escape.parse? rest
    return (← ofEscape? flags escape, rest)
  | mark :: rest => do
    return (← ofCode? flags mark.toNat, rest)

end Item

namespace Bracket

/-- What follows an item, or the range that begins with it. A range ends with a character that is
not before its first. A hyphen before a closing bracket or another hyphen makes no range. -/
def afterElement? (flags : Flags) (text : List Char) : Option (List Char) := do
  let (first, rest) ← Item.parse? flags text
  match rest with
  | '-' :: next :: later =>
    if next = ']' ∨ next = '-' then some rest
    else
      match first, ← Item.parse? flags (next :: later) with
      | .character first, (.character last, rest) => if first ≤ last then some rest else none
      | _, _ => none
  | _ => some rest

/-- The names of kinds of characters. -/
def kinds : List String :=
  ["alnum", "alpha", "ascii", "blank", "cntrl", "digit", "graph", "lower", "print", "punct",
    "space", "upper", "word", "xdigit"]

/-- What follows the name of a kind within an opening bracket, if one stands there. -/
def afterKind? : List Char → Option (List Char)
  | ':' :: rest =>
    let rest :=
      match rest with
      | '^' :: rest => rest
      | _ => rest
    let name := rest.takeWhile fun character => character != ':'
    match rest.drop name.length with
    | ':' :: ']' :: later => if kinds.contains (String.ofList name) then some later else none
    | _ => none
  | _ => none

/-- Whether brackets with a beginning hold all but what they list. -/
def isNegated (text : List Char) : Bool := text.head? == some '^'

/-- What follows the beginning of brackets: a mark of negation, and hyphens or else a closing
bracket that stand for themselves. -/
def afterOpening (text : List Char) : List Char :=
  let rest := if isNegated text then text.drop 1 else text
  match rest with
  | ']' :: later => later
  | _ => rest.dropWhile fun character => character == '-'

/-- What follows the opening of brackets, if the flags allow them. -/
def afterOpening? (flags : Flags) (text : List Char) : Option (List Char) :=
  if flags.compares && (flags.unicode || !isNegated text) then some (afterOpening text) else none

/-- What follows one step in brackets, with the number of brackets that are open then. -/
def step? (flags : Flags) (depth : Nat) : List Char → Option (Nat × List Char)
  | '[' :: rest =>
    match afterKind? rest with
    | some later => some (depth, later)
    | none => (afterOpening? flags rest).map fun later => (depth + 1, later)
  | ']' :: rest => some (depth - 1, rest)
  | '&' :: '&' :: rest => some (depth, rest)
  | '-' :: '-' :: rest => some (depth, rest)
  | '~' :: '~' :: rest => some (depth, rest)
  | text => (afterElement? flags text).map fun later => (depth, later)

end Bracket

end WebFetch.Simulation.Pattern
