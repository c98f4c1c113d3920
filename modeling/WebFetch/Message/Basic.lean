/-
This file holds HTTP/1.1 messages: header fields and how they are looked up, the response, the
request that is written, and why a response can be refused.
-/

import WebFetch.Stream.Error
import WebFetch.Text.Ascii
import WebFetch.Text.Utf8

namespace WebFetch

structure Field where
  name : String
  value : String
  deriving DecidableEq, Repr

/-- The value of the first field of a name, whatever the case of its letters. -/
def Field.lookup (fields : List Field) (name : String) : Option String :=
  (fields.find? fun field => Ascii.sameIgnoringCase field.name name).map Field.value

structure Response where
  version : String
  status : UInt16
  reason : String
  fields : List Field
  body : Octets
  deriving DecidableEq, Repr

/-- Why no response could be read. -/
inductive MessageError where
  | io (error : IoError)
  /-- The stream ended before the response did. -/
  | incomplete
  | invalidStatusLine
  | invalidField
  | invalidContentLength
  | invalidChunk
  | unsupportedTransferCoding (value : String)
  | tooLarge
  /-- A sum of an offset and a length is no offset. This is no error that is returned: the program
  stops where it adds them. -/
  | overflow
  deriving DecidableEq, Repr

def MessageError.message : MessageError → String
  | .io error => "i/o error: " ++ error.text
  | .incomplete => "connection closed before the response was complete"
  | .invalidStatusLine => "invalid status line"
  | .invalidField => "invalid header line"
  | .invalidContentLength => "invalid Content-Length"
  | .invalidChunk => "invalid chunked encoding"
  | .unsupportedTransferCoding value => "unsupported transfer coding: " ++ value
  | .tooLarge => "message too large"
  | .overflow => "attempt to add with overflow"

namespace Message

def lineEnd : Octets := [0x0d, 0x0a]

/-- The end of a head: the end of its last line and an empty line. -/
def headEnd : Octets := lineEnd ++ lineEnd

/-- A line of a request with its end. -/
def line (text : String) : Octets :=
  Utf8.encode text ++ lineEnd

/-- The octets of a request for a target of a host, with further fields as they are. -/
def request (target host : String) (fields : List Field) : Octets :=
  line ("GET " ++ target ++ " HTTP/1.1") ++ line ("Host: " ++ host) ++
    fields.flatMap (fun field => line (field.name ++ ": " ++ field.value)) ++ lineEnd

end Message

end WebFetch
