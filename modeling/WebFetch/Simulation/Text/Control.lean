/-
This file takes out of texts what a terminal would not show but obey: control characters, and the
sequences that an escape character begins. Line ends and tabs are shown. A text is read from mode
to mode, one character at a time.
-/

namespace WebFetch.Simulation.Control

/-- Whether a character is a control character that is shown, as a blank or a line end. -/
def isLayout (character : Char) : Bool :=
  character == '\t' || character == '\n' || character == '\x0c' || character == '\r'

/-- Whether a character is no control character of ASCII. -/
def isGraphic (character : Char) : Bool :=
  decide (0x20 ≤ character.toNat) && character != '\x7f'

/-- Whether a character lies between two others of ASCII. -/
def isBetween (first last character : Char) : Bool :=
  decide (first.toNat ≤ character.toNat) && decide (character.toNat ≤ last.toNat)

/-- Where in a text a character stands. -/
inductive Mode where
  | text
  /-- After the escape character. -/
  | escaped
  /-- Within a sequence of marks that a letter or a digit ends. -/
  | intermediate
  /-- Within a sequence that has parameters and is ended by a letter. -/
  | parameters
  /-- Within a command, which a bell ends. -/
  | command
  /-- Within other data, which only a new sequence ends. -/
  | data
  deriving DecidableEq, Repr

namespace Mode

/-- Whether a character is shown. A line end within a sequence is shown too. -/
def shows (mode : Mode) (character : Char) : Bool :=
  match mode with
  | text => isGraphic character || isLayout character
  | escaped | intermediate | parameters => isLayout character
  | command | data => false

/-- The mode after the character that follows an escape. -/
def afterEscape (character : Char) : Mode :=
  if character = '[' then parameters
  else if character = ']' then command
  else if "PX^_".toList.contains character then data
  else if isBetween '0' '~' character then text
  else if isBetween ' ' '/' character then intermediate
  else escaped

/-- The mode after a character. An escape begins a sequence anywhere, and the characters for
cancelling and for a substitute end one. -/
def next (mode : Mode) (character : Char) : Mode :=
  if character = '\x1b' then escaped
  else if character = '\x18' ∨ character = '\x1a' ∨ mode.shows character then text
  else
    match mode with
    | text => text
    | escaped => afterEscape character
    | intermediate => if isBetween '0' '~' character then text else intermediate
    | parameters => if isBetween '@' '~' character then text else parameters
    | command => if character = '\x07' then text else command
    | data => data

/-- The characters of a text that are shown, if it is read from a mode on. -/
def shown (mode : Mode) : List Char → List Char
  | [] => []
  | character :: rest =>
    if mode.shows character then character :: (mode.next character).shown rest
    else (mode.next character).shown rest

end Mode

/-- A text without what is not shown. -/
def strip (text : String) : String :=
  String.ofList (Mode.text.shown text.toList)

end WebFetch.Simulation.Control
