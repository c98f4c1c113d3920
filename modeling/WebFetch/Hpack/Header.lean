/-
This file holds header fields as octets and the fixed table of fields that are used often, in
which the places count from one.
-/

import WebFetch.Text.Ascii
import WebFetch.Text.Utf8

namespace WebFetch

/-- A header field of a header block. -/
structure Header where
  name : Octets
  value : Octets
  deriving DecidableEq, Repr

namespace Header

/-- What a field costs in a table beside its octets. -/
def overhead : Nat := 32

/-- What a field costs in a table. -/
def size (header : Header) : Nat :=
  header.name.length + header.value.length + overhead

/-- The field of two texts. -/
def ofText (name value : String) : Header :=
  ⟨Utf8.encode name, Utf8.encode value⟩

/-- The text of a field. -/
def print (header : Header) : String :=
  Utf8.lossyText header.name ++ ": " ++ Utf8.lossyText header.value

end Header

namespace StaticTable

/-- The names and values of the table. -/
def texts : List (String × String) :=
  [(":authority", ""), (":method", "GET"), (":method", "POST"), (":path", "/"),
    (":path", "/index.html"), (":scheme", "http"), (":scheme", "https"), (":status", "200"),
    (":status", "204"), (":status", "206"), (":status", "304"), (":status", "400"),
    (":status", "404"), (":status", "500"), ("accept-charset", ""),
    ("accept-encoding", "gzip, deflate"), ("accept-language", ""), ("accept-ranges", ""),
    ("accept", ""), ("access-control-allow-origin", ""), ("age", ""), ("allow", ""),
    ("authorization", ""), ("cache-control", ""), ("content-disposition", ""),
    ("content-encoding", ""), ("content-language", ""), ("content-length", ""),
    ("content-location", ""), ("content-range", ""), ("content-type", ""), ("cookie", ""),
    ("date", ""), ("etag", ""), ("expect", ""), ("expires", ""), ("from", ""), ("host", ""),
    ("if-match", ""), ("if-modified-since", ""), ("if-none-match", ""), ("if-range", ""),
    ("if-unmodified-since", ""), ("last-modified", ""), ("link", ""), ("location", ""),
    ("max-forwards", ""), ("proxy-authenticate", ""), ("proxy-authorization", ""), ("range", ""),
    ("referer", ""), ("refresh", ""), ("retry-after", ""), ("server", ""), ("set-cookie", ""),
    ("strict-transport-security", ""), ("transfer-encoding", ""), ("user-agent", ""),
    ("vary", ""), ("via", ""), ("www-authenticate", "")]

/-- The fields of the table. -/
def entries : List Header :=
  texts.map fun (name, value) => ⟨Ascii.octets name, Ascii.octets value⟩

/-- The number of fields. -/
def size : Nat := 61

/-- The field at a place, of which the first is one. -/
def lookup (index : Nat) : Option Header :=
  if index = 0 then none else entries[index - 1]?

end StaticTable

end WebFetch
