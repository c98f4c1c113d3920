/-
This file decides where the body of a response ends. Some statuses have no body; else a transfer
coding, which has to be `chunked`, comes before a length, and without either the body ends with
the connection.
-/

import WebFetch.Message.Basic
import WebFetch.Octets.Window
import WebFetch.Text.Blank
import WebFetch.Text.Numeral

namespace WebFetch

/-- How the end of a body is found. -/
inductive Framing where
  /-- The body has a known number of octets. -/
  | contentLength (length : Nat)
  | chunked
  | untilClose
  /-- There is no body. -/
  | empty
  deriving DecidableEq, Repr

namespace Framing

/-- Whether responses with a status have no body. -/
def isBodiless (status : UInt16) : Bool :=
  decide (status < 200) || status == 204 || status == 304

/-- The framing that a transfer coding announces. -/
def ofTransferCoding (value : String) : Except MessageError Framing :=
  if Ascii.sameIgnoringCase (String.ofList (trim value.toList)) "chunked" then .ok .chunked
  else .error (.unsupportedTransferCoding value)

/-- The framing that a length announces. -/
def ofContentLength (value : String) : Except MessageError Framing :=
  match Numeral.parse 10 wordLimit (trim value.toList) with
  | .error _ => .error .invalidContentLength
  | .ok length => .ok (.contentLength length)

/-- The framing of a response with a status and header fields. -/
def ofFields (status : UInt16) (fields : List Field) : Except MessageError Framing :=
  if isBodiless status then .ok .empty
  else
    match Field.lookup fields "transfer-encoding" with
    | some value => ofTransferCoding value
    | none =>
      match Field.lookup fields "content-length" with
      | some value => ofContentLength value
      | none => .ok .untilClose

end Framing

end WebFetch
