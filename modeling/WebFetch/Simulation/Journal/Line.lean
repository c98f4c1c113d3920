/-
This file prints a journal. An entry is printed with its level and its part, the message, in which
the control characters that a terminal would obey are written out, and after it the details as names
and values. Line ends are kept, so a message may take several lines.
-/

import WebFetch.Cut
import WebFetch.Journal.Basic
import WebFetch.Text.Quoted

namespace WebFetch.Simulation.Line

/-- The control characters of ASCII that are written out, with what is written. -/
def writtenOut : List (Char × String) :=
  [('\x1b', "\\x1b"), ('\x07', "\\x07"), ('\x08', "\\x08"), ('\x0c', "\\x0c"), ('\x7f', "\\x7f")]

/-- A character as it stands in a printed message. -/
def printCharacter (character : Char) : List Char :=
  match writtenOut.find? fun (control, _) => control == character with
  | some (_, text) => text.toList
  | none =>
    if 0x80 ≤ character.toNat ∧ character.toNat ≤ 0x9f then Quoted.numbered character
    else [character]

/-- A detail as it follows a message. -/
def printDetail (detail : Detail) : List Char :=
  ' ' :: detail.name.toList ++ ['='] ++
    (if detail.quoted then Quoted.encode detail.value else detail.value).toList

/-- The text of an entry after its level and its part. -/
def printContent (entry : Entry) : List Char :=
  entry.message.toList.flatMap printCharacter ++ entry.details.flatMap printDetail

/-- The first line of the text of an entry. -/
def first (entry : Entry) : String :=
  String.ofList (cutOptional ['\n'] (printContent entry)).1

def print (entry : Entry) : String :=
  entry.level.name ++ " " ++ entry.reporter.path ++ ": " ++ String.ofList (printContent entry) ++
    "\n"

end WebFetch.Simulation.Line
