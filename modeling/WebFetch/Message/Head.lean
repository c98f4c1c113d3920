/-
This file reads the head of a response: a status line with a version, a status of three characters
and a reason, and lines of a name, a colon and a value. Names and values are trimmed, and empty
lines are passed over.
-/

import WebFetch.Cut
import WebFetch.Message.Basic
import WebFetch.Text.Blank
import WebFetch.Text.Numeral

namespace WebFetch

structure Head where
  version : String
  status : UInt16
  reason : String
  fields : List Field
  deriving DecidableEq, Repr

namespace Head

/-- What every version begins with. -/
def protocol : List Char := "HTTP/".toList

/-- The version, the status and the reason of a status line. -/
def parseStatusLine (line : List Char) : Except MessageError (String × UInt16 × String) :=
  match cutOptional [' '] line with
  | (version, after) =>
    match after with
    | none => .error .invalidStatusLine
    | some after =>
      let (status, reason) := cutOptional [' '] after
      if ¬ protocol.isPrefixOf version ∨ status.length ≠ 3 then .error .invalidStatusLine
      else
        match Numeral.parse 10 wordLimit16 status with
        | .error _ => .error .invalidStatusLine
        | .ok value =>
          .ok (String.ofList version, UInt16.ofNat value, String.ofList (reason.getD []))

def parseField (line : List Char) : Except MessageError Field :=
  match cut [':'] line with
  | none => .error .invalidField
  | some (name, value) => .ok ⟨String.ofList (trim name), String.ofList (trim value)⟩

/-- The head that lines write. -/
def ofLines : List (List Char) → Except MessageError Head
  | [] => .error .invalidStatusLine
  | statusLine :: lines => do
    let (version, status, reason) ← parseStatusLine statusLine
    let fields ← (lines.filter fun line => !line.isEmpty).mapM parseField
    return ⟨version, status, reason, fields⟩

/-- The head that octets write. -/
def parse (octets : Octets) : Except MessageError Head :=
  match (split Message.lineEnd octets).mapM Utf8.decode? with
  | none => .error .invalidStatusLine
  | some lines => ofLines lines

def withBody (head : Head) (body : Octets) : Response :=
  ⟨head.version, head.status, head.reason, head.fields, body⟩

end Head

end WebFetch
