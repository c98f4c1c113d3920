/-
This file holds the parameters of the command line, as they are written, and what can be wrong with
them. Asking for help or for the version also ends reading, though it is no error.
-/

import WebFetch.CommandLine
import WebFetch.Simulation.Text.Control
import WebFetch.Text.Numeral

namespace WebFetch.Simulation

/-- The parameters of the command line beside the URL. -/
inductive Parameter where
  | verbose
  | http2
  | header
  | insecure
  | keylog
  | connectTimeout
  | readTimeout
  | help
  | version
  deriving DecidableEq, Repr

namespace Parameter

/-- All parameters, in the order in which help shows them. -/
def all : List Parameter :=
  [verbose, http2, header, insecure, keylog, connectTimeout, readTimeout, help, version]

/-- The name of a parameter after two hyphens. -/
def long : Parameter → String
  | verbose => "verbose"
  | http2 => "http2"
  | header => "header"
  | insecure => "insecure"
  | keylog => "keylog"
  | connectTimeout => "connect-timeout"
  | readTimeout => "read-timeout"
  | help => "help"
  | version => "version"

/-- The letter of a parameter after one hyphen. -/
def short? : Parameter → Option Char
  | verbose => some 'v'
  | header => some 'H'
  | insecure => some 'k'
  | help => some 'h'
  | version => some 'V'
  | _ => none

/-- What stands for the value of a parameter that takes one. -/
def placeholder? : Parameter → Option String
  | header => some "<NAME: VALUE>"
  | connectTimeout => some "<SECS>"
  | readTimeout => some "<SECS>"
  | _ => none

def takesValue (parameter : Parameter) : Bool := parameter.placeholder?.isSome

def print (parameter : Parameter) : String :=
  "--" ++ parameter.long ++
    match parameter.placeholder? with
    | some placeholder => " " ++ placeholder
    | none => if parameter = verbose then "..." else ""

def ofLong? (name : List Char) : Option Parameter :=
  all.find? fun parameter => parameter.long.toList == name

def ofShort? (letter : Char) : Option Parameter :=
  all.find? fun parameter => parameter.short? == some letter

end Parameter

/-- Why the value of a parameter is refused. -/
inductive ValueError where
  | numeral (error : NumeralError)
  | field (error : CommandLine.FieldError)
  deriving DecidableEq, Repr

def ValueError.message : ValueError → String
  | .numeral error => error.message
  | .field error => error.message

/-- What is wrong with a command line. -/
inductive UsageError where
  | unexpectedArgument (argument : String)
  | repeated (parameter : Parameter)
  | invalidValue (parameter : Parameter) (value : String) (error : ValueError)
  | missingValue (parameter : Parameter)
  | unexpectedValue (parameter : Parameter) (value : String)
  | missingUrl
  deriving DecidableEq, Repr

/-- What a refused value is followed by, up to the name of the parameter that tells more. -/
def UsageError.hint : String := "\n\nFor more information, try '"

/-- The text of the error. Of what stands on the command line only what a terminal shows is
repeated. The words that are set off, as a value and the names of parameters are, end any control
sequence before them, but the reason why a value is refused is not set off. So a sequence in it
goes on through the hint. -/
def UsageError.message : UsageError → String
  | .unexpectedArgument argument =>
    "error: unexpected argument '" ++ Control.strip argument ++ "' found"
  | .repeated parameter =>
    "error: the argument '" ++ parameter.print ++ "' cannot be used multiple times"
  | .invalidValue parameter value error =>
    "error: invalid value '" ++ Control.strip value ++ "' for '" ++ parameter.print ++ "': " ++
      Control.strip (error.message ++ hint) ++ Parameter.help.print ++ "'."
  | .missingValue parameter =>
    "error: a value is required for '" ++ parameter.print ++ "' but none was supplied"
  | .unexpectedValue parameter value =>
    "error: unexpected value '" ++ Control.strip value ++ "' for '" ++ parameter.print ++
      "' found; no more were expected"
  | .missingUrl => "error: the following required arguments were not provided:"

/-- Why reading a command line ends without an invocation. -/
inductive StopReason where
  | usage (error : UsageError)
  | help
  | version
  deriving DecidableEq, Repr

end WebFetch.Simulation
