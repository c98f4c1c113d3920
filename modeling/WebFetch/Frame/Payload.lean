/-
This file builds the frames that a client sends and reads the payloads that it receives. A list of
settings is written and read six octets at a time; streams and increments leave out the first bit
of the four octets they stand in.
-/

import WebFetch.Frame.Basic

namespace WebFetch.Frame

/-! ### Building -/

/-- A frame that concerns the connection and not a stream. -/
def control (type : FrameType) (flags : UInt8) (payload : Octets) : Frame :=
  ⟨type, flags, 0, payload⟩

def settings (settings : List Setting) : Frame :=
  control .settings 0 (settings.flatMap Setting.octets)

/-- Acknowledges the settings of the other side. -/
def settingsAck : Frame :=
  control .settings Flag.ack []

/-- Allows the other side to send more. -/
def windowUpdate (stream increment : UInt32) : Except FrameError Frame :=
  if maxIncrement < increment then .error (.incrementTooLarge increment)
  else checked .windowUpdate 0 stream (Octets.ofNat 4 increment.toNat)

/-- Ends the connection. -/
def goAway (lastStream : UInt32) (error : ErrorCode) : Except FrameError Frame :=
  if maxStream < lastStream then .error (.streamIdTooLarge lastStream)
  else
    .ok (control .goAway 0 (Octets.ofNat 4 lastStream.toNat ++ Octets.ofNat 4 error.code.toNat))

/-- Begins a header block. -/
def headers (stream : UInt32) (fragment : Octets) (endStream endHeaders : Bool) :
    Except FrameError Frame :=
  checked .headers
    ((if endStream then Flag.endStream else 0) ||| (if endHeaders then Flag.endHeaders else 0))
    stream fragment

/-- Continues a header block. -/
def continuation (stream : UInt32) (fragment : Octets) (endHeaders : Bool) :
    Except FrameError Frame :=
  checked .continuation (if endHeaders then Flag.endHeaders else 0) stream fragment

/-! ### Reading -/

/-- The settings at the front of octets, as many as are whole. -/
def wholeSettings : Octets → List Setting
  | id0 :: id1 :: value0 :: value1 :: value2 :: value3 :: rest =>
    ⟨UInt16.ofNat (Octets.toNat [id0, id1]),
      UInt32.ofNat (Octets.toNat [value0, value1, value2, value3])⟩ :: wholeSettings rest
  | _ => []

/-- The settings of a payload. -/
def parseSettings (payload : Octets) : Except FrameError (List Setting) :=
  if payload.length % 6 ≠ 0 then .error (.invalidSettings payload.length)
  else .ok (wholeSettings payload)

/-- The number in the four octets at an offset of a payload. -/
def word (payload : Octets) (offset : Nat) : Except FrameError UInt32 :=
  match (Window.mk payload).number 4 offset with
  | .ok value => .ok (UInt32.ofNat value)
  | .error error => .error (.range error)

/-- The number in the last 31 bits of the four octets at an offset of a payload. -/
def word31 (payload : Octets) (offset : Nat) : Except FrameError UInt32 :=
  (word payload offset).map (· &&& maxStream)

/-- The code of a payload that gives up a stream. -/
def parseRstStream (payload : Octets) : Except FrameError ErrorCode :=
  (word payload 0).map ErrorCode.mk

/-- The last stream and the code of a payload that ends the connection. -/
def parseGoAway (payload : Octets) : Except FrameError (UInt32 × ErrorCode) := do
  let lastStream ← word31 payload 0
  let code ← word payload 4
  return (lastStream, ⟨code⟩)

/-- The increment of a payload that allows to send more. -/
def parseWindowUpdate (payload : Octets) : Except FrameError UInt32 :=
  word31 payload 0

end WebFetch.Frame
