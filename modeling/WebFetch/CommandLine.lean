/-
This file says what the command line of the program asks for. Which arguments stand for which
parameters is the matter of a library that reads command lines; how the value of a header field is
read is settled here, and what the parameters mean for fetching.
-/

import WebFetch.Cut
import WebFetch.Fetch.Basic
import WebFetch.Text.Blank

namespace WebFetch

/-- What stood on a command line: the URL and the parameters. -/
structure Invocation where
  url : String
  /-- How often more detail was asked for. -/
  verbosity : UInt8
  http2 : Bool
  fields : List Field
  insecure : Bool
  keylog : Bool
  connectTimeout : UInt64
  readTimeout : UInt64
  deriving DecidableEq, Repr

/-- How to fetch what was asked for. -/
def Invocation.options (invocation : Invocation) : FetchOptions :=
  { FetchOptions.default with
    frames := invocation.http2
    verifyCertificates := !invocation.insecure
    logKeys := invocation.keylog
    timeouts := ⟨invocation.connectTimeout.toNat, invocation.readTimeout.toNat⟩ }

/-- How the program ends if its command line asks for nothing to be fetched, or cannot be read. -/
structure Stop where
  exitCode : UInt8
  output : Octets
  diagnostics : String
  deriving DecidableEq

namespace CommandLine

/-- Why the value of a header field is refused. -/
inductive FieldError where
  | withoutColon (value : String)
  | withoutName (value : String)
  deriving DecidableEq, Repr

def FieldError.message : FieldError → String
  | .withoutColon value => "expected 'NAME: VALUE', got '" ++ value ++ "'"
  | .withoutName value => "empty header name in '" ++ value ++ "'"

/-- The header field that a text writes. -/
def parseField (text : String) : Except FieldError Field :=
  match cut [':'] text.toList with
  | none => .error (.withoutColon text)
  | some (name, value) =>
    let name := trim name
    if name.isEmpty then .error (.withoutName text)
    else .ok ⟨String.ofList name, String.ofList (trim value)⟩

end CommandLine

end WebFetch
