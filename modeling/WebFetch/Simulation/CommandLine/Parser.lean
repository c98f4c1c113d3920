/-
This file reads command lines argument by argument. A parameter that takes a value and has none
attached waits for the next argument; what it waits for is looked at only when something else
follows that is known, or at the end. After two hyphens alone every argument is a URL, of which
there is one.
-/

import WebFetch.Cut
import WebFetch.Simulation.CommandLine.Basic
import WebFetch.Word

namespace WebFetch.Simulation.CommandLine

/-- A parameter that waits for its value, with the value once it is there. -/
structure Pending where
  parameter : Parameter
  value : Option (List Char)
  deriving DecidableEq, Repr

/-- What was read of a command line. -/
structure Reader where
  /-- How the value of a header field is read. -/
  parseField : String → Except CommandLine.FieldError Field
  url : Option String
  verbosity : UInt8
  http2 : Bool
  insecure : Bool
  keylog : Bool
  connectTimeout : Option UInt64
  readTimeout : Option UInt64
  /-- The header fields, last first. -/
  fieldsReversed : List Field
  pending : Option Pending
  /-- Whether every further argument is a URL. -/
  trailing : Bool

namespace Reader

/-- A reader that has read nothing. -/
def start (parseField : String → Except CommandLine.FieldError Field) : Reader :=
  ⟨parseField, none, 0, false, false, false, none, none, [], none, false⟩

/-- One more, if that can be counted. -/
def countUp (count : UInt8) : UInt8 := if count = 255 then count else count + 1

/-! ### Values -/

/-- The number of seconds that a text writes. -/
def parseSeconds (text : List Char) : Except ValueError UInt64 :=
  ((Numeral.parse 10 wordLimit text).map UInt64.ofNat).mapError .numeral

/-- What a reading of a value for a parameter yields, or why the command line is refused. -/
def checked {Value : Type} (parameter : Parameter) (text : List Char)
    (result : Except ValueError Value) : Except StopReason Value :=
  result.mapError fun error => .usage (.invalidValue parameter (String.ofList text) error)

/-- Refuses a parameter that was given before and may be given once. -/
def requireNew (parameter : Parameter) (given : Bool) : Except StopReason Unit :=
  if given then .error (.usage (.repeated parameter)) else .ok ()

def takeValue (parameter : Parameter) (text : List Char) (reader : Reader) :
    Except StopReason Reader := do
  match parameter with
  | .header =>
    let field ← checked parameter text ((reader.parseField (String.ofList text)).mapError .field)
    return { reader with fieldsReversed := field :: reader.fieldsReversed }
  | .connectTimeout =>
    requireNew parameter reader.connectTimeout.isSome
    let seconds ← checked parameter text (parseSeconds text)
    return { reader with connectTimeout := some seconds }
  | .readTimeout =>
    requireNew parameter reader.readTimeout.isSome
    let seconds ← checked parameter text (parseSeconds text)
    return { reader with readTimeout := some seconds }
  | _ => return reader

/-- Takes the value of the parameter that waits for one. -/
def settle (reader : Reader) : Except StopReason Reader :=
  match reader.pending with
  | none => .ok reader
  | some ⟨parameter, none⟩ => .error (.usage (.missingValue parameter))
  | some ⟨parameter, some value⟩ => takeValue parameter value { reader with pending := none }

/-! ### Parameters -/

/-- Takes a parameter without a value. -/
def takeFlag (parameter : Parameter) (reader : Reader) : Except StopReason Reader := do
  let reader ← reader.settle
  match parameter with
  | .verbose => return { reader with verbosity := countUp reader.verbosity }
  | .http2 =>
    requireNew parameter reader.http2
    return { reader with http2 := true }
  | .insecure =>
    requireNew parameter reader.insecure
    return { reader with insecure := true }
  | .keylog =>
    requireNew parameter reader.keylog
    return { reader with keylog := true }
  | .help => .error .help
  | .version => .error .version
  | _ => return reader

/-- Takes a parameter with a value that may be attached to it. -/
def takeOption (parameter : Parameter) (attached : Option (List Char)) (reader : Reader) :
    Except StopReason Reader := do
  let reader ← reader.settle
  match attached with
  | some value => takeValue parameter value reader
  | none => return { reader with pending := some ⟨parameter, none⟩ }

/-- Takes what follows two hyphens: a name, and after an equals sign a value. -/
def takeLong (text : List Char) (reader : Reader) : Except StopReason Reader :=
  let (name, attached) := cutOptional ['='] text
  match Parameter.ofLong? name with
  | none => .error (.usage (.unexpectedArgument ("--" ++ String.ofList name)))
  | some parameter =>
    if parameter.takesValue then takeOption parameter attached reader
    else
      match attached with
      | some value => .error (.usage (.unexpectedValue parameter (String.ofList value)))
      | none => takeFlag parameter reader

/-- The value attached to a letter, after an equals sign or not. -/
def attachedValue : List Char → Option (List Char)
  | [] => none
  | '=' :: value => some value
  | value => some value

/-- Takes the letters that follow one hyphen. What follows the letter of a parameter that takes a
value is its value. -/
def takeShort (reader : Reader) : List Char → Except StopReason Reader
  | [] => .ok reader
  | letter :: rest =>
    match Parameter.ofShort? letter with
    | none => .error (.usage (.unexpectedArgument (String.ofList ['-', letter])))
    | some parameter =>
      if parameter.takesValue then takeOption parameter (attachedValue rest) reader
      else
        match takeFlag parameter reader with
        | .error stop => .error stop
        | .ok reader => takeShort reader rest

/-! ### Arguments -/

def takeUrl (text : List Char) (reader : Reader) : Except StopReason Reader :=
  if reader.url.isSome then .error (.usage (.unexpectedArgument (String.ofList text)))
  else do
    let reader ← reader.settle
    return { reader with url := some (String.ofList text) }

/-- Takes an argument that is no parameter: a value that is waited for, or the URL. -/
def takePlain (text : List Char) (reader : Reader) : Except StopReason Reader :=
  match reader.pending with
  | some ⟨parameter, none⟩ => .ok { reader with pending := some ⟨parameter, some text⟩ }
  | _ => takeUrl text reader

def take (reader : Reader) (argument : String) : Except StopReason Reader :=
  let text := argument.toList
  if reader.trailing then takeUrl text reader
  else
    match text with
    | ['-', '-'] => .ok { reader with trailing := true }
    | '-' :: '-' :: long => takeLong long reader
    | '-' :: letter :: letters => takeShort reader (letter :: letters)
    | _ => takePlain text reader

/-- What was asked for in all. -/
def finish (reader : Reader) : Except StopReason Invocation := do
  let reader ← reader.settle
  match reader.url with
  | none => .error (.usage .missingUrl)
  | some url =>
    let timeouts := FetchOptions.default.timeouts
    .ok ⟨url, reader.verbosity, reader.http2, reader.fieldsReversed.reverse, reader.insecure,
      reader.keylog, reader.connectTimeout.getD (UInt64.ofNat timeouts.connect),
      reader.readTimeout.getD (UInt64.ofNat timeouts.read)⟩

end Reader

/-- What a command line asks for, given how the value of a header field is read. -/
def parse (parseField : String → Except CommandLine.FieldError Field) (arguments : List String) :
    Except StopReason Invocation := do
  let reader ← arguments.foldlM Reader.take (Reader.start parseField)
  reader.finish

end WebFetch.Simulation.CommandLine
