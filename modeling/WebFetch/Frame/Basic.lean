/-
This file holds frames, the units of an HTTP/2 connection: a type, flags, a stream and a payload.
A frame is written as nine octets of header and its payload. Reading takes one frame from the
front of octets and leaves the rest; types that are not defined are kept by their number.
-/

import WebFetch.Octets.Window
import WebFetch.Text.Ascii

namespace WebFetch

/-! ### Types and flags -/

inductive FrameType where
  | data
  | headers
  | priority
  | rstStream
  | settings
  | pushPromise
  | ping
  | goAway
  | windowUpdate
  | continuation
  /-- A type that is not defined, by its number. -/
  | unknown (code : UInt8)
  deriving DecidableEq, Repr

namespace FrameType

def ofCode (code : UInt8) : FrameType :=
  if code = 0 then .data
  else if code = 1 then .headers
  else if code = 2 then .priority
  else if code = 3 then .rstStream
  else if code = 4 then .settings
  else if code = 5 then .pushPromise
  else if code = 6 then .ping
  else if code = 7 then .goAway
  else if code = 8 then .windowUpdate
  else if code = 9 then .continuation
  else .unknown code

def code : FrameType → UInt8
  | .data => 0
  | .headers => 1
  | .priority => 2
  | .rstStream => 3
  | .settings => 4
  | .pushPromise => 5
  | .ping => 6
  | .goAway => 7
  | .windowUpdate => 8
  | .continuation => 9
  | .unknown code => code

def name : FrameType → String
  | .data => "DATA"
  | .headers => "HEADERS"
  | .priority => "PRIORITY"
  | .rstStream => "RST_STREAM"
  | .settings => "SETTINGS"
  | .pushPromise => "PUSH_PROMISE"
  | .ping => "PING"
  | .goAway => "GOAWAY"
  | .windowUpdate => "WINDOW_UPDATE"
  | .continuation => "CONTINUATION"
  | .unknown _ => "UNKNOWN"

/-- The text of a type: its name, and its number if it is not defined. -/
def print (type : FrameType) : String :=
  match type with
  | .unknown code => "UNKNOWN(0x" ++ Octets.toHex [code] ++ ")"
  | type => type.name

end FrameType

namespace Flag

/-- The stream ends with this frame. -/
def endStream : UInt8 := 0x01

/-- The header block ends with this frame. -/
def endHeaders : UInt8 := 0x04

/-- The payload is padded. -/
def padded : UInt8 := 0x08

/-- The payload begins with a priority. -/
def priority : UInt8 := 0x20

/-- The frame acknowledges another. -/
def ack : UInt8 := 0x01

end Flag

/-! ### Codes of errors and settings -/

/-- The code with which a stream or a connection is given up. -/
structure ErrorCode where
  code : UInt32
  deriving DecidableEq, Repr

namespace ErrorCode

/-- The names of the codes that are defined, in order from zero. -/
def names : List String :=
  ["NO_ERROR", "PROTOCOL_ERROR", "INTERNAL_ERROR", "FLOW_CONTROL_ERROR", "SETTINGS_TIMEOUT",
    "STREAM_CLOSED", "FRAME_SIZE_ERROR", "REFUSED_STREAM", "CANCEL", "COMPRESSION_ERROR",
    "CONNECT_ERROR", "ENHANCE_YOUR_CALM", "INADEQUATE_SECURITY", "HTTP_1_1_REQUIRED"]

/-- The connection ends without an error. -/
def noError : ErrorCode := ⟨0⟩

def name (error : ErrorCode) : String :=
  (names[error.code.toNat]?).getD "UNKNOWN"

/-- The text of a code: its name and its number. -/
def print (error : ErrorCode) : String :=
  error.name ++ "(" ++ error.code.toNat.repr ++ ")"

end ErrorCode

/-- A parameter of a connection. -/
structure Setting where
  id : UInt16
  value : UInt32
  deriving DecidableEq, Repr

namespace Setting

/-- The names of the parameters that are defined, in order from one. -/
def names : List String :=
  ["SETTINGS_HEADER_TABLE_SIZE", "SETTINGS_ENABLE_PUSH", "SETTINGS_MAX_CONCURRENT_STREAMS",
    "SETTINGS_INITIAL_WINDOW_SIZE", "SETTINGS_MAX_FRAME_SIZE", "SETTINGS_MAX_HEADER_LIST_SIZE"]

/-- The name of a parameter, if it is defined. -/
def name? (id : UInt16) : Option String :=
  if id = 0 then none else names[id.toNat - 1]?

/-- The octets of a parameter. -/
def octets (setting : Setting) : Octets :=
  Octets.ofNat 2 setting.id.toNat ++ Octets.ofNat 4 setting.value.toNat

end Setting

/-! ### Frames -/

/-- Why a frame could not be built or read. -/
inductive FrameError where
  | lengthTooLarge (length : Nat)
  | streamIdTooLarge (stream : UInt32)
  | incrementTooLarge (increment : UInt32)
  | incomplete
  | invalidSettings (length : Nat)
  | range (error : RangeError)
  deriving DecidableEq, Repr

def FrameError.message : FrameError → String
  | .lengthTooLarge length => s!"frame payload of {length} bytes exceeds 24-bit length"
  | .streamIdTooLarge stream => s!"stream id {stream.toNat} exceeds 31 bits"
  | .incrementTooLarge increment => s!"window increment {increment.toNat} exceeds 31 bits"
  | .incomplete => "incomplete frame"
  | .invalidSettings length => s!"SETTINGS payload length {length} is not a multiple of 6"
  | .range error => "malformed frame payload: " ++ error.message

structure Frame where
  type : FrameType
  flags : UInt8
  stream : UInt32
  payload : Octets
  deriving DecidableEq

/-- The header of a frame as it stands on the wire. -/
structure FrameHeader where
  length : UInt24
  type : UInt8
  flags : UInt8
  stream : UInt32
  deriving DecidableEq

namespace FrameHeader

/-- The number of octets of a header. -/
def size : Nat := 9

/-- The header at the front of octets. The reserved bit before the stream is ignored. -/
def parse (octets : Octets) : Except FrameError FrameHeader :=
  match octets with
  | length0 :: length1 :: length2 :: type :: flags :: stream0 :: stream1 :: stream2 ::
      stream3 :: _ =>
    .ok {
      length := UInt24.ofNatModulo (Octets.toNat [length0, length1, length2])
      type := type
      flags := flags
      stream :=
        UInt32.ofNat (Octets.toNat [stream0, stream1, stream2, stream3] % wordLimit31) }
  | _ => .error .incomplete

def withPayload (header : FrameHeader) (payload : Octets) : Frame :=
  ⟨FrameType.ofCode header.type, header.flags, header.stream, payload⟩

/-- The frame of this header whose payload is at the front of octets, and the octets after it. -/
def takeFrame (header : FrameHeader) (octets : Octets) : Except FrameError (Frame × Octets) :=
  let payload := octets.take header.length.toNat
  if payload.length < header.length.toNat then .error .incomplete
  else .ok (header.withPayload payload, octets.drop header.length.toNat)

end FrameHeader

namespace Frame

/-- The payload that frames carry at most unless more is agreed. -/
def defaultPayloadLimit : Nat := 16384

def maxStream : UInt32 := 0x7fffffff

/-- The largest increment of a window. -/
def maxIncrement : UInt32 := 0x7fffffff

/-- What a client sends before its first frame. -/
def preface : Octets := Ascii.octets "PRI * HTTP/2.0\r\n\r\nSM\r\n\r\n"

/-- A frame whose payload and stream fit their fields. -/
def checked (type : FrameType) (flags : UInt8) (stream : UInt32) (payload : Octets) :
    Except FrameError Frame :=
  if wordLimit24 ≤ payload.length then .error (.lengthTooLarge payload.length)
  else if maxStream < stream then .error (.streamIdTooLarge stream)
  else .ok ⟨type, flags, stream, payload⟩

/-- Whether any bit of a flag is set. -/
def has (frame : Frame) (flag : UInt8) : Bool :=
  frame.flags &&& flag != 0

def header (frame : Frame) : Octets :=
  Octets.ofNat 3 frame.payload.length ++ [frame.type.code, frame.flags] ++
    Octets.ofNat 4 (frame.stream.toNat % wordLimit31)

def encode (frame : Frame) : Octets :=
  frame.header ++ frame.payload

/-- The frame at the front of octets, and the octets that follow it. -/
def parse (octets : Octets) : Except FrameError (Frame × Octets) := do
  let header ← FrameHeader.parse octets
  header.takeFrame (octets.drop FrameHeader.size)

end Frame

end WebFetch
