/-
This file reads rules that say what a journal accepts. They are a list of directives with commas
between them. A directive names a part, by the beginning of its path, and the least urgent
level that is accepted from it; without a level it accepts everything, and without a part it
speaks for all. It may also name a detail, and then speaks only of entries that have it. Of the
directives that apply to an entry the closest decides. What a journal expects is decided in the
same way, but before there are details, so a directive that names one is taken as if they had it.
-/

import WebFetch.Cut
import WebFetch.Journal.Basic
import WebFetch.Simulation.Pattern.Reading
import WebFetch.Simulation.Text.Alphanumeric
import WebFetch.Simulation.Text.Decimal
import WebFetch.Text.Blank
import WebFetch.Text.Numeral
import WebFetch.Word

namespace WebFetch.Simulation

/-- One rule. -/
structure Directive where
  /-- What the path of a part has to begin with. -/
  target : Option (List Char)
  /-- The name of a detail that an entry has to have. -/
  detail : Option (List Char)
  /-- Whether the directive asks for an enclosing activity, of which the library reports none. -/
  enclosed : Bool
  /-- The least urgent level that is accepted, if any is. -/
  level : Option Level
  deriving DecidableEq, Repr

/-- What a journal accepts. -/
structure Rules where
  directives : List Directive
  deriving DecidableEq, Repr

/-! ### Levels -/

/-- The place of a level, which grows with the detail it admits. -/
def levelRank : Level → Nat
  | .error => 1
  | .warn => 2
  | .info => 3
  | .debug => 4
  | .trace => 5

/-- The place of the least urgent level that is accepted, or zero if none is. -/
def levelLimit (level : Option Level) : Nat :=
  match level with
  | none => 0
  | some level => levelRank level

/-- The words for levels in lower case, in the order of their ranks. -/
def levelWords : List (List Char × Option Level) :=
  [("off".toList, none), ("error".toList, some .error), ("warn".toList, some .warn),
    ("info".toList, some .info), ("debug".toList, some .debug), ("trace".toList, some .trace)]

/-- The level that a word or a rank denotes. The inner `none` accepts nothing. -/
def parseLevel? (text : List Char) : Option (Option Level) :=
  match Numeral.parse 10 wordLimit text with
  | .ok rank => (levelWords[rank]?).map Prod.snd
  | .error _ =>
    if text.isEmpty then some (some .error)
    else (levelWords.find? fun (word, _) => word == text.map Char.toLower).map Prod.snd

/-! ### Reading directives -/

namespace Directive

/-- A directive that accepts everything from every part. -/
def everything : Directive := ⟨none, none, false, some .trace⟩

/-- The directive with the level that follows an equals sign. Nothing there accepts everything. -/
def withLevel? (directive : Directive) (text : List Char) : Option Directive :=
  if text.isEmpty then some { directive with level := some .trace }
  else (parseLevel? text).map fun level => { directive with level := level }

/-! Where the parts of a directive lie is found without the blanks at the ends of its text, but the
parts are taken from the whole of it. So the rest of a text is read as two: what is `scanned` for
the marks, and what is `kept` to take the parts from. Both lose the same number of characters. -/

/-- The directive with what follows the brackets: nothing, or an equals sign and a level. -/
def afterBrackets? (directive : Directive) (scanned kept : List Char) : Option Directive :=
  match scanned with
  | [] => some directive
  | '=' :: _ => directive.withLevel? (kept.drop 1)
  | _ => none

/-- Whether a text can be asked for as the value of a detail: a number, or a pattern. -/
def isValue (text : List Char) : Bool := Decimal.isNumber text || Pattern.isPattern text

/-- The directive with a detail of a name, and of a value up to the next equals sign if one is
given. A detail with a value asks for an enclosing activity. -/
def withNamed? (directive : Directive) (text : List Char) : Option Directive :=
  match cutOptional ['='] text with
  | (name, none) => some { directive with detail := some name }
  | (name, some rest) =>
    if isValue (cutOptional ['='] rest).1 then
      some { directive with detail := some name, enclosed := true }
    else none

/-- The directive with the detail in braces. -/
def withDetail? (directive : Directive) (scanned kept : List Char) : Option Directive := do
  let length := (scanned.takeWhile fun character => character != '\x7d').length
  if length = 0 then none
  else
    let directive ← directive.withNamed? (kept.take length)
    match scanned.drop length with
    | '\x7d' :: ']' :: scanned => directive.afterBrackets? scanned (kept.drop (length + 2))
    | _ => none

/-- The directive with what brackets ask for: an enclosing activity, a detail, or both. Brackets
without a detail ask for an activity even if they do not name it. -/
def withBrackets? (directive : Directive) (scanned kept : List Char) : Option Directive :=
  let length :=
    (scanned.takeWhile fun character => character != ']' && character != '\x7b').length
  let rest := kept.drop (length + 1)
  match scanned.drop length with
  | ']' :: scanned => { directive with enclosed := true }.afterBrackets? scanned rest
  | '\x7b' :: scanned =>
    { directive with enclosed := decide (0 < length) }.withDetail? scanned rest
  | _ => none

def mayBegin (character : Char) : Bool :=
  character == '-' || character == ':' || character == '_' || isAlphanumeric character

/-- The directive that a text writes, if it is one. -/
def parse? (text : List Char) : Option Directive :=
  let scanned := trim text
  match scanned with
  | [] => none
  | '[' :: rest => everything.withBrackets? rest (text.drop 1)
  | first :: _ =>
    if mayBegin first then
      let length := (scanned.takeWhile fun character => character != '=' && character != '[').length
      let directive := { everything with target := some (text.take length) }
      let kept := text.drop (length + 1)
      match scanned.drop length with
      | '=' :: _ => directive.withLevel? kept
      | '[' :: rest => directive.withBrackets? rest kept
      | _ =>
        match parseLevel? text with
        | some level => some { everything with level := level }
        | none => some { everything with target := some text }
    else none

/-! ### Applying directives -/

/-- Whether a directive speaks of a part, as far as details do not matter. -/
def appliesTo (directive : Directive) (reporter : Reporter) : Bool :=
  !directive.enclosed &&
    directive.target.all fun target => target.isPrefixOf reporter.path.toList

/-- Whether a directive speaks of an entry. The message counts as a detail. -/
def applies (directive : Directive) (entry : Entry) : Bool :=
  let names := "message".toList :: entry.details.map fun detail => detail.name.toList
  directive.appliesTo entry.reporter && directive.detail.all names.contains

/-- How closely a directive names what it speaks of. The length of the target comes first, then
whether a detail is named, and last its name. -/
def closeness (directive : Directive) : List Nat :=
  (match directive.target with
    | none => 0
    | some target => target.length + 1) ::
  match directive.detail with
    | none => [0]
    | some detail => 1 :: detail.map Char.toNat

/-- Whether a directive names what it speaks of at least as closely as another. -/
def atLeastAsClose (directive other : Directive) : Bool :=
  !List.lex directive.closeness other.closeness Nat.blt

/-- The closest of several directives, and the last of those that are alike. -/
def closest? (directives : List Directive) : Option Directive :=
  directives.foldl
    (fun best directive =>
      match best with
      | none => some directive
      | some other => if directive.atLeastAsClose other then some directive else some other) none

/-- Whether directives that apply let a level pass. The closest decides. -/
def letPass (directives : List Directive) (level : Level) : Bool :=
  match closest? directives with
  | none => false
  | some directive => decide (levelRank level ≤ levelLimit directive.level)

end Directive

/-! ### Rules -/

namespace Rules

/-- The rules that directives make. Without any, errors are accepted. -/
def ofDirectives (directives : List Directive) : Rules :=
  if directives.isEmpty then ⟨[{ Directive.everything with level := some .error }]⟩
  else ⟨directives⟩

/-- What stands between the commas of a text. -/
def pieces (text : String) : List (List Char) :=
  (split [','] text.toList).filter fun piece => !piece.isEmpty

/-- The rules that a text writes, if everything in it is a directive. -/
def parse? (text : String) : Option Rules :=
  ((pieces text).mapM Directive.parse?).map ofDirectives

/-- The rules that a text writes, but for what is no directive. -/
def parseLossy (text : String) : Rules :=
  ofDirectives ((pieces text).filterMap Directive.parse?)

def accepts (rules : Rules) (entry : Entry) : Bool :=
  Directive.letPass (rules.directives.filter fun directive => directive.applies entry) entry.level

/-- Whether entries of a part and a level are expected. -/
def expects (rules : Rules) (reporter : Reporter) (level : Level) : Bool :=
  Directive.letPass (rules.directives.filter fun directive => directive.appliesTo reporter) level

def filter (rules : Rules) : Filter := ⟨rules.accepts, rules.expects⟩

end Rules

end WebFetch.Simulation
