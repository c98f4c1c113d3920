/-
This file holds the receiver of a response. It gathers octets as they arrive, in whatever pieces,
and hands out the response once they hold a whole one; its only state is the octets gathered since
the last response. A body that ends with the connection is handed out when the connection closes.
-/

import WebFetch.Journal.Basic
import WebFetch.Message.Chunked
import WebFetch.Message.Framing
import WebFetch.Message.Head
import WebFetch.Stream.Basic

namespace WebFetch

/-- The most octets that a response may have. -/
structure Limits where
  /-- Of its head. -/
  head : Nat
  /-- Of its body. -/
  body : Nat
  deriving DecidableEq, Repr

namespace Limits

/-- The limits that hold where none are given. -/
def default : Limits := ⟨64 * 1024, 64 * 1024 * 1024⟩

/-- The most octets that may be gathered. -/
def total (limits : Limits) : Nat := min (limits.head + limits.body) (wordLimit - 1)

end Limits

structure Receiver where
  limits : Limits
  gathered : Octets
  deriving DecidableEq

namespace Receiver

/-- A receiver that has gathered nothing. -/
def new (limits : Limits) : Receiver := ⟨limits, []⟩

/-- Gathers octets. The octets are kept even if they are too many. -/
def feed (octets : Octets) (receiver : Receiver) : Except MessageError Unit × Receiver :=
  let receiver := { receiver with gathered := receiver.gathered ++ octets }
  if receiver.limits.total < receiver.gathered.length then (.error .tooLarge, receiver)
  else (.ok (), receiver)

/-! ### Reading what was gathered -/

/-- The octets from one offset up to the one that lies `length` octets behind it, if all of them
were gathered. Offsets have 64 bits, and adding to one beyond them stops the program. -/
def slice? (octets : Octets) (start length : Nat) : Except MessageError (Option Octets) :=
  if wordLimit ≤ start + length then .error .overflow
  else if octets.length < start + length then .ok none
  else .ok (some ((octets.drop start).take length))

/-- The body that follows a head, if all of it was gathered. -/
def body? (limits : Limits) (octets : Octets) (start : Nat) :
    Framing → Except MessageError (Option Octets)
  | .empty => .ok (some [])
  | .contentLength length =>
    if limits.body < length then .error .tooLarge else slice? octets start length
  | .chunked => Chunked.decode limits.body (octets.drop start)
  | .untilClose => .ok none

/-- The response that octets hold, if they hold a whole one. -/
def response? (limits : Limits) (octets : Octets) : Except MessageError (Option Response) :=
  match cut Message.headEnd octets with
  | none => if limits.head < octets.length then .error .tooLarge else .ok none
  | some (headOctets, _) => do
    let head ← Head.parse headOctets
    let framing ← Framing.ofFields head.status head.fields
    let body ← body? limits octets (headOctets.length + Message.headEnd.length) framing
    return body.map head.withBody

/-- The response that octets hold when no more will come: one whose body ends with the
connection. -/
def lastResponse (octets : Octets) : Except MessageError Response :=
  match cut Message.headEnd octets with
  | none => .error .incomplete
  | some (headOctets, after) => do
    let head ← Head.parse headOctets
    match ← Framing.ofFields head.status head.fields with
    | .untilClose => .ok (head.withBody after)
    | _ => .error .incomplete

/-- Hands out the response, if a whole one was gathered. -/
def next (receiver : Receiver) : Except MessageError (Option Response) × Receiver :=
  match response? receiver.limits receiver.gathered with
  | .ok (some response) => (.ok (some response), { receiver with gathered := [] })
  | result => (result, receiver)

/-- Hands out the response whose body ends here. -/
def finish (receiver : Receiver) : Except MessageError Response × Receiver :=
  match lastResponse receiver.gathered with
  | .ok response => (.ok response, { receiver with gathered := [] })
  | result => (result, receiver)

/-! ### Reading from a stream -/

/-- The most octets that are read at once. -/
def readSize : Nat := 8192

/-- What a receiver gets from a stream: the result, the stream as it is then, and the journal. -/
structure Reception where
  result : Except MessageError Response
  stream : Stream
  journal : Journal

/-- Finishes when the stream has ended. -/
def close (receiver : Receiver) (stream : Stream) (journal : Journal) : Reception :=
  ⟨receiver.finish.1, stream, journal.debug .message "connection closed by peer" []⟩

/-- Reads until the receiver hands out a response or the stream ends. An interrupted read is
repeated, and a stream that is cut off has ended. -/
def receive (receiver : Receiver) (stream : Stream) (journal : Journal) : Reception :=
  match found : stream.read readSize with
  | (.error error, later) =>
    if interrupted : error.kind = .interrupted then
      have : later.weight < stream.weight :=
        Stream.weight_read_lt_of_interrupted found interrupted
      receive receiver later journal
    else if error.kind = .unexpectedEof then close receiver later journal
    else ⟨.error (.io error), later, journal⟩
  | (.ok [], later) => close receiver later journal
  | (.ok (first :: rest), later) =>
    have : later.weight < stream.weight := Stream.weight_read_lt_of_ok found
    let count := (first :: rest).length
    let journal := journal.trace .message "response data" [.plain "bytes" count.repr]
    match receiver.feed (first :: rest) with
    | (.error error, _) => ⟨.error error, later, journal⟩
    | (.ok _, receiver) =>
      match receiver.next with
      | (.error error, _) => ⟨.error error, later, journal⟩
      | (.ok (some response), _) => ⟨.ok response, later, journal⟩
      | (.ok none, receiver) => receive receiver later journal
  termination_by stream.weight

end Receiver

end WebFetch
