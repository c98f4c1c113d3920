/-
This file says which texts are patterns. A pattern is read from left to right: characters,
escapes, brackets, groups with their flags and names, alternatives and repetitions. A pattern has
no braces, because the texts in which patterns stand end at one.
-/

import WebFetch.Simulation.Pattern.Bracket
import WebFetch.Simulation.Text.Alphanumeric

namespace WebFetch.Simulation.Pattern

/-- What matters of the part of a pattern that was read. -/
structure Reading where
  flags : Flags
  /-- The flags to go back to at the ends of the open groups, the innermost first. -/
  enclosing : List Flags
  /-- How many brackets are open. -/
  brackets : Nat
  /-- Whether what was read last can be repeated. -/
  repeatable : Bool
  /-- The names of groups. -/
  names : List (List Char)
  deriving DecidableEq, Repr

namespace Reading

/-- Nothing has been read. -/
def initial : Reading := ⟨Flags.initial, [], 0, false, []⟩

/-- After something that can be repeated. -/
def operand (reading : Reading) : Reading := { reading with repeatable := true }

/-- After something that cannot be repeated. -/
def fresh (reading : Reading) : Reading := { reading with repeatable := false }

/-- After the beginning of a group in which some flags hold. -/
def enter (reading : Reading) (flags : Flags) : Reading :=
  { reading.fresh with flags := flags, enclosing := reading.flags :: reading.enclosing }

/-! ### Groups -/

/-- The letters of flags, and the mark after which they are taken back. -/
def flagMarks : List Char := ['i', 'm', 's', 'U', 'u', 'R', 'x', '-']

/-- Whether a text changes flags: no mark stands twice, and the last takes back nothing unless a
letter follows it. -/
def changesFlags (text : List Char) : Bool :=
  text.all flagMarks.contains && text.all (fun mark => text.count mark == 1) &&
    text.getLast? != some '-'

/-- A flag after a change: set, taken back, or as it was. -/
def changed (letter : Char) (text : List Char) (before : Bool) : Bool :=
  if (text.takeWhile fun mark => mark != '-').contains letter then true
  else if text.contains letter then false
  else before

def changeFlags (flags : Flags) (text : List Char) : Flags :=
  ⟨changed 'i' text flags.ignoresCase, changed 'u' text flags.unicode⟩

/-- Whether a character may stand in the name of a group. -/
def isNamePart (character : Char) : Bool :=
  "_.[]".toList.contains character || isAlphanumeric character

/-- Whether a text is the name of a group. -/
def isName : List Char → Bool
  | [] => false
  | first :: rest =>
    (first == '_' || (isAlphanumeric first && !first.isDigit)) && rest.all isNamePart

/-- After a group begins with its name. -/
def enterNamed? (reading : Reading) (text : List Char) : Option (Reading × List Char) :=
  let name := text.takeWhile fun character => character != '>'
  match text.drop name.length with
  | _ :: rest =>
    if isName name && !reading.names.contains name then
      some ({ reading.enter reading.flags with names := name :: reading.names }, rest)
    else none
  | [] => none

/-- After flags that hold for the group they begin or, if it ends with them, for what follows. -/
def enterFlagged? (reading : Reading) (text : List Char) : Option (Reading × List Char) :=
  let marks := text.takeWhile fun character => character != ':' && character != ')'
  let flags := changeFlags reading.flags marks
  if changesFlags marks then
    match text.drop marks.length with
    | ':' :: rest => some (reading.enter flags, rest)
    | ')' :: rest =>
      if marks.isEmpty then none else some ({ reading.fresh with flags := flags }, rest)
    | _ => none
  else none

/-! ### Steps -/

/-- After a repetition, which may be marked to be as short as possible. -/
def repeated? (reading : Reading) (rest : List Char) : Option (Reading × List Char) :=
  if reading.repeatable then
    match rest with
    | '?' :: rest => some (reading, rest)
    | _ => some (reading, rest)
  else none

/-- After a step outside brackets. -/
def textStep? (reading : Reading) : List Char → Option (Reading × List Char)
  | [] => none
  | '(' :: '?' :: 'P' :: '<' :: rest => reading.enterNamed? rest
  | '(' :: '?' :: '<' :: rest => reading.enterNamed? rest
  | '(' :: '?' :: rest => reading.enterFlagged? rest
  | '(' :: rest => some (reading.enter reading.flags, rest)
  | ')' :: rest =>
    match reading.enclosing with
    | [] => none
    | flags :: enclosing =>
      some ({ reading.operand with flags := flags, enclosing := enclosing }, rest)
  | '|' :: rest => some (reading.fresh, rest)
  | '[' :: rest =>
    (Bracket.afterOpening? reading.flags rest).map fun rest =>
      ({ reading.operand with brackets := 1 }, rest)
  | '\\' :: rest => do
    let (escape, rest) ← Escape.parse? rest
    if escape.isAllowed reading.flags then some (reading.operand, rest) else none
  | '.' :: rest => if reading.flags.unicode then some (reading.operand, rest) else none
  | character :: rest =>
    if character = '*' ∨ character = '+' ∨ character = '?' then reading.repeated? rest
    else if character = '\x7b' then none
    else if character = '^' ∨ character = '$' ∨ reading.flags.compares then
      some (reading.operand, rest)
    else none

def step? (reading : Reading) (text : List Char) : Option (Reading × List Char) :=
  if reading.brackets = 0 then reading.textStep? text
  else
    (Bracket.step? reading.flags reading.brackets text).map fun (brackets, rest) =>
      ({ reading with brackets := brackets }, rest)

/-- After the whole of a text. Every step uses some of it up. -/
def readAll? (reading : Reading) (text : List Char) : Option Reading :=
  if text.isEmpty then some reading
  else
    match reading.step? text with
    | none => none
    | some (reading, rest) =>
      if rest.length < text.length then reading.readAll? rest else none
  termination_by text.length

/-- Whether no group and no brackets are open. -/
def isComplete (reading : Reading) : Bool :=
  reading.enclosing.isEmpty && reading.brackets == 0

end Reading

def isPattern (text : List Char) : Bool :=
  (Reading.initial.readAll? text).any Reading.isComplete

end WebFetch.Simulation.Pattern
