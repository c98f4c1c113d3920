/-
This file says which hosts a server can be asked for by name when a connection is made secure: a
name of the domain name system, or an address, for which no name is sent.
-/

import WebFetch.Address
import WebFetch.Text.Ascii

namespace WebFetch.Simulation

/-- What a secure connection is made to. -/
inductive ServerName where
  | named (name : String)
  | address (address : Address)
  deriving DecidableEq

namespace ServerName

def lengthLimit : Nat := 253

def labelLimit : Nat := 63

/-- Whether a character may stand in a label. -/
def isLabelCharacter (character : Char) : Bool :=
  character.isAlphanum || character == '-' || character == '_'

/-- Whether a text may stand between two points of a name. -/
def isLabel (label : List Char) : Bool :=
  !label.isEmpty && decide (label.length ≤ labelLimit) && label.all isLabelCharacter &&
    label.head? != some '-' && label.getLast? != some '-'

/-- The labels of a name. A point at the end makes no label of its own. -/
def labels (name : List Char) : List (List Char) :=
  let labels := split ['.'] name
  if 1 < labels.length ∧ labels.getLast? = some [] then labels.dropLast else labels

/-- Whether a text is a name: made of labels, of which the last is no number. -/
def isName (name : List Char) : Bool :=
  decide (name.length ≤ lengthLimit) && (labels name).all isLabel &&
    !((labels name).getLast?.getD []).all Char.isDigit

def ofHost? (host : String) : Option ServerName :=
  if isName host.toList then some (.named host)
  else (Address.parse? host.toList).map .address

/-- What is sent of a server name: the name in lower case without a point at its end. -/
def sent? : ServerName → Option String
  | .named name =>
    let characters := name.toList
    let characters := if characters.getLast? = some '.' then characters.dropLast else characters
    some (Ascii.lower (String.ofList characters))
  | .address _ => none

end ServerName

end WebFetch.Simulation
