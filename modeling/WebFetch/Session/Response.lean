/-
This file reads a response. A header block comes first, in one frame or in several, and is decoded
once it is whole; then come frames with the body until one ends the stream. For octets of the body
that the client has taken, and unless they were the last, it allows the other side to send as
many again.
-/

import WebFetch.Session.Basic
import WebFetch.Text.Numeral

namespace WebFetch.Session

/-! ### Frames that are awaited -/

/-- The frame itself if it has the awaited type, else why the exchange ends with it. -/
def requireType (expected : FrameType) (frame : Frame) : Except SessionError Frame :=
  if frame.type = expected then .ok frame
  else
    match frame.type with
    | .rstStream => do
      let code ← (Frame.parseRstStream frame.payload).mapError .frame
      .error (.streamReset code)
    | .goAway => do
      let (lastStream, code) ← (Frame.parseGoAway frame.payload).mapError .frame
      .error (.goAway lastStream code)
    | received => .error (.unexpectedFrame expected received)

/-- Reads a frame that has to have a type. -/
def await (expected : FrameType) : Action Frame := do
  let frame ← readFrame
  yieldOf (requireType expected frame)

theorem weight_await_lt {expected : FrameType} {session later : Session} {frame : Frame}
    (found : await expected session = (.ok frame, later)) :
    later.stream.weight < session.stream.weight := by
  obtain ⟨_, middle, read, required⟩ := exists_of_bind_eq_ok found
  rw [← (Prod.mk.inj required).2]
  exact weight_readFrame_lt read

/-! ### The header block -/

def priorityOctets : Nat := 5

/-- The piece of a header block that a frame carries between its priority and its padding. -/
def fragment (frame : Frame) : Except SessionError Octets :=
  let padding? :=
    if frame.has Flag.padded then frame.payload.head?.map fun octet => (1, octet.toNat)
    else some (0, 0)
  match padding? with
  | none => .error .invalidPadding
  | some (padLength, padding) =>
    let start := padLength + if frame.has Flag.priority then priorityOctets else 0
    if frame.payload.length < start + padding then .error .invalidPadding
    else .ok ((frame.payload.drop start).take (frame.payload.length - padding - start))

/-- Reads the frames that continue a block, of which the pieces read before are given last
first. -/
def readBlockFrom (pieces : List Octets) (ended : Bool) : Action Octets := fun session =>
  if ended then (.ok pieces.reverse.flatten, session)
  else
    match found : await .continuation session with
    | (.error error, session) => (.error error, session)
    | (.ok frame, later) =>
      have : later.stream.weight < session.stream.weight := weight_await_lt found
      readBlockFrom (frame.payload :: pieces) (frame.has Flag.endHeaders) later
  termination_by session => session.stream.weight

/-- Decodes a block with the table of the session. -/
def decodeBlock (block : Octets) : Action (List Header) := fun session =>
  let reading := Hpack.decode session.table block session.journal
  (reading.result.mapError .hpack,
    { session with table := reading.table, journal := reading.journal })

def reportTable : Action Unit := fun session =>
  reportExpected .debug ("HPACK dynamic table\n" ++ session.table.print) [] session

/-- Reports a header field of the response. -/
def reportHeader (header : Header) : Action Unit :=
  reportExpected .debug "decoded header" [.plain "header" header.print]

/-- Reads the header fields of a response, and whether the stream ends with them. -/
def readHeaders : Action (List Header × Bool) := do
  let frame ← await .headers
  let first ← yieldOf (fragment frame)
  let block ← readBlockFrom [first] (frame.has Flag.endHeaders)
  let headers ← decodeBlock block
  reportTable
  headers.forM reportHeader
  return (headers, frame.has Flag.endStream)

/-! ### The status -/

/-- The name of the header field that holds the status. -/
def statusName : Octets := Ascii.octets ":status"

def isDigit (octet : UInt8) : Bool := decide (0x30 ≤ octet ∧ octet ≤ 0x39)

/-- The status that three digits denote. -/
def parseStatus (headers : List Header) : Except SessionError UInt16 :=
  match headers.find? fun header => header.name == statusName with
  | none => .error .missingStatus
  | some header =>
    if header.value.length = 3 ∧ header.value.all isDigit then
      .ok (UInt16.ofNat
        (header.value.foldl (fun status digit => status * 10 + (digit.toNat - 0x30)) 0))
    else .error (.invalidStatus (Utf8.lossyText header.value))

/-! ### The body -/

/-- Allows the other side to send as many octets again, unless there are none. -/
def allowMore (length : Nat) : Action Unit :=
  if length = 0 then return ()
  else do
    let increment := UInt32.ofNat length
    writeFrame (← yieldOf ((Frame.windowUpdate requestStream increment).mapError .frame))
    writeFrame (← yieldOf ((Frame.windowUpdate 0 increment).mapError .frame))

theorem neverRefills_allowMore (length : Nat) : NeverRefills (allowMore length) := by
  unfold allowMore
  split
  · exact neverRefills_pure _
  · exact neverRefills_bind (neverRefills_yieldOf _) fun _ =>
      neverRefills_bind (neverRefills_writeFrame _) fun _ =>
        neverRefills_bind (neverRefills_yieldOf _) fun _ => neverRefills_writeFrame _

/-- Reads the frames of a body, of which the pieces read before are given last first. -/
def readBodyFrom (pieces : List Octets) : Action Octets := fun session =>
  match found : await .data session with
  | (.error error, session) => (.error error, session)
  | (.ok frame, middle) =>
    if frame.has Flag.padded then (.error .paddedData, middle)
    else if frame.has Flag.endStream then
      (.ok (frame.payload :: pieces).reverse.flatten, middle)
    else
      match allowed : allowMore frame.payload.length middle with
      | (.error error, session) => (.error error, session)
      | (.ok _, later) =>
        have : later.stream.weight < session.stream.weight := by
          have kept := neverRefills_allowMore frame.payload.length middle
          rw [allowed] at kept
          exact Nat.lt_of_le_of_lt kept (weight_await_lt found)
        readBodyFrom (frame.payload :: pieces) later
  termination_by session => session.stream.weight

def readBody : Action Octets := readBodyFrom []

end WebFetch.Session
