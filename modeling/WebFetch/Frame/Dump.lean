/-
This file prints frames for the journal: the type, the fields of the header, the octets, and what
the payload says for the types that are understood. Every frame has a dump; what a payload is too
short for is left out.
-/

import WebFetch.Frame.Payload
import WebFetch.Octets.HexDump

namespace WebFetch.Frame

/-- How many octets of a payload a dump shows. -/
def dumpLimit : Nat := 200

/-- The flags that are defined for a type, with their names. -/
def definedFlags : FrameType → List (UInt8 × String)
  | .data => [(Flag.endStream, "END_STREAM"), (Flag.padded, "PADDED")]
  | .headers =>
    [(Flag.endStream, "END_STREAM"), (Flag.endHeaders, "END_HEADERS"), (Flag.padded, "PADDED"),
      (Flag.priority, "PRIORITY")]
  | .settings => [(Flag.ack, "ACK")]
  | .ping => [(Flag.ack, "ACK")]
  | .pushPromise => [(Flag.endHeaders, "END_HEADERS"), (Flag.padded, "PADDED")]
  | .continuation => [(Flag.endHeaders, "END_HEADERS")]
  | _ => []

/-- The names of the flags that are set and defined for the type. -/
def flagNames (frame : Frame) : List String :=
  ((definedFlags frame.type).filter fun (flag, _) => frame.has flag).map Prod.snd

/-- A line of what the payload says. -/
def detail (name value : String) : String := name ++ ": " ++ value ++ "\n"

/-- What the payload of a header block says before the block: padding and priority. -/
def headersDetails (frame : Frame) : List String :=
  let window := Window.mk frame.payload
  let offset := if frame.has Flag.padded then 1 else 0
  let padding :=
    if frame.has Flag.padded then
      match window.number 1 0 with
      | .ok length => [detail "Pad Length" length.repr]
      | .error _ => []
    else []
  let priority :=
    if frame.has Flag.priority then
      match window.number 4 offset, window.number 1 (offset + 4) with
      | .ok dependency, .ok weight =>
        [detail "E" (dependency / wordLimit31).repr,
          detail "Stream Dependency" (dependency % wordLimit31).repr, detail "Weight" weight.repr]
      | _, _ => []
    else []
  padding ++ priority

/-- What the payload says, for the types that are understood. -/
def details (frame : Frame) : List String :=
  match frame.type with
  | .headers => frame.headersDetails
  | .settings =>
    (wholeSettings frame.payload).map fun setting =>
      detail ((Setting.name? setting.id).getD "Unknown") setting.value.toNat.repr
  | .rstStream =>
    match parseRstStream frame.payload with
    | .ok code => [detail "Error Code" code.print]
    | .error _ => []
  | .goAway =>
    match parseGoAway frame.payload with
    | .ok (lastStream, code) =>
      [detail "Last Stream Id" lastStream.toNat.repr, detail "Error Code" code.print]
    | .error _ => []
  | .windowUpdate =>
    match parseWindowUpdate frame.payload with
    | .ok increment => [detail "Window Size Increment" increment.toNat.repr]
    | .error _ => []
  | _ => []

def payloadDump (frame : Frame) : String :=
  if frame.payload.isEmpty then ""
  else "Payload:\n" ++ HexDump.render frame.payload dumpLimit ++ String.join frame.details

def dump (frame : Frame) : String :=
  "Frame: " ++ frame.type.print ++ "\n" ++
    "Header: Length=" ++ frame.payload.length.repr ++
    " StreamId=" ++ frame.stream.toNat.repr ++
    " Flags=" ++ String.intercalate "," frame.flagNames ++ "\n" ++
    HexDump.render frame.header 0 ++ frame.payloadDump

end WebFetch.Frame
