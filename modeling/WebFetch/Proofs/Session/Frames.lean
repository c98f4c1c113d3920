/-
This file is about single frames on a session. A frame that the stream takes whole and passes on is
written. A frame that stands at the front of the pending octets is read, however these arrive, and
nothing else happens: what remains of the script is what stands behind its last octet. Where no
frame is pending and the stream closes, its end is reported.
-/

import WebFetch.Proofs.Frame.RoundTrip
import WebFetch.Proofs.Session.Actions
import WebFetch.Proofs.Stream.Remaining

namespace WebFetch.Session

/-! ### Writing -/

/-- A frame is written and passed on. -/
theorem writeFrame_of_steps {session : Session} {frame : Frame} {taken passed : Stream}
    (wrote : session.stream.writeAll frame.encode = (.ok (), taken))
    (flushed : taken.flush = (.ok (), passed)) :
    ∃ journal, writeFrame frame session =
      (.ok (), { session with stream := passed, journal := journal }) := by
  obtain ⟨journal, sending⟩ := exists_journal_of_reportExpected .debug ("SEND\n" ++ frame.dump) []
    session
  have writing : writeOctets frame.encode { session with journal := journal } =
      (.ok (), { session with stream := taken, journal := journal }) := onStream_of_ok wrote
  have flushing : onStream Stream.flush { session with stream := taken, journal := journal } =
      (.ok (), { session with stream := passed, journal := journal }) := onStream_of_ok flushed
  rw [writeFrame, bind_of_ok sending, bind_of_ok writing, bind_of_ok flushing]
  exact ⟨_, rfl⟩

/-! ### Reading -/

/-- As many octets as are needed are read from those that are pending, and nothing else happens. -/
theorem onStream_readExact_of_le {needed : Nat} {session : Session}
    (enough : needed ≤ session.stream.pending.length) :
    ∃ calls, onStream (Stream.readExact needed) session =
      (.ok (session.stream.pending.take needed), { session with
        stream := session.stream.withReading
          (ReadEvent.remaining needed session.stream.events) calls }) := by
  obtain ⟨stream, read, _⟩ := Stream.readExact_pending enough
  obtain ⟨events, calls, same⟩ := Stream.exists_eq_of_readExactFrom needed [] session.stream
  rw [← Stream.readExact, read] at same
  have left : stream.events = ReadEvent.remaining needed session.stream.events :=
    Stream.events_readExactFrom read
  dsimp only at same
  rw [same] at left
  refine ⟨calls, (onStream_of_ok read).trans ?_⟩
  rw [same, ← left]
  rfl

theorem pending_withReading {count : Nat} {stream : Stream} (enough : count ≤ stream.pending.length)
    (calls : List StreamCall) :
    (stream.withReading (ReadEvent.remaining count stream.events) calls).pending =
      stream.pending.drop count :=
  ReadEvent.pending_remaining enough

/-- A header is read if enough octets are pending, and nothing else happens. -/
theorem readHeader_of_le {session : Session}
    (long : FrameHeader.size ≤ session.stream.pending.length) :
    ∃ header calls, FrameHeader.parse session.stream.pending = .ok header ∧
      readHeader session = (.ok header, { session with
        stream := session.stream.withReading
          (ReadEvent.remaining FrameHeader.size session.stream.events) calls }) := by
  obtain ⟨calls, read⟩ := onStream_readExact_of_le long
  obtain ⟨header, found⟩ := FrameHeader.exists_parse (List.length_take_of_le long)
  have whole := FrameHeader.parse_append found (session.stream.pending.drop FrameHeader.size)
  rw [List.take_append_drop] at whole
  refine ⟨header, calls, whole, ?_⟩
  rw [readHeader, bind_of_ok read, found]
  rfl

/-- A frame that stands at the front of the pending octets is read, and nothing else happens. -/
theorem readFrame_of_parse {session : Session} {frame : Frame} {left : Octets}
    (found : Frame.parse session.stream.pending = .ok (frame, left)) :
    ∃ calls journal, readFrame session = (.ok frame, { session with
      stream := session.stream.withReading
        (ReadEvent.remaining frame.encode.length session.stream.events) calls
      journal := journal }) := by
  obtain ⟨header, headerFound, taken⟩ := exists_ok_of_bind found
  have long := Frame.size_le_of_parseHeader headerFound
  obtain ⟨same, firstCalls, headerSame, headerRead⟩ := readHeader_of_le long
  rw [headerFound] at headerSame
  cases headerSame
  generalize begun : session.stream.withReading
    (ReadEvent.remaining FrameHeader.size session.stream.events) firstCalls = stream at headerRead
  have pending : stream.pending = session.stream.pending.drop FrameHeader.size := by
    rw [← begun, pending_withReading long]
  obtain ⟨enough, rfl⟩ := FrameHeader.eq_of_takeFrame taken
  rw [← pending] at enough ⊢
  obtain ⟨calls, payloadRead⟩ :
      ∃ calls, readPayload header { session with stream := stream } = _ :=
    @onStream_readExact_of_le _ { session with stream := stream } enough
  have size : (header.withPayload (stream.pending.take header.length.toNat)).encode.length =
      FrameHeader.size + header.length.toNat := by
    rw [Frame.length_encode]
    exact congrArg (FrameHeader.size + ·) (List.length_take_of_le enough)
  rw [readFrame, bind_of_ok headerRead, bind_of_ok payloadRead, size,
    ← ReadEvent.remaining_remaining, ← begun]
  exact ⟨calls, _, rfl⟩

/-- Octets that are needed and never come are reported as the end of the stream. -/
theorem onStream_readExact_of_closes {needed : Nat} {session : Session}
    (closes : session.stream.Closes) (short : session.stream.pending.length < needed) :
    ∃ failure stream, onStream (Stream.readExact needed) session =
        (.error (.io failure), { session with stream := stream }) ∧
      failure.kind = .unexpectedEof ∧ stream.written = session.stream.written := by
  obtain ⟨failure, stream, read, eof⟩ :=
    @Stream.readExactFrom_of_closes _ [] _ closes short
  obtain ⟨events, calls, same⟩ := Stream.exists_eq_of_readExactFrom needed [] session.stream
  rw [read] at same
  refine ⟨failure, stream, ?_, eof, congrArg (·.writtenReversed.reverse) same⟩
  rw [onStream_eq, Stream.readExact, read]
  rfl

/-- Where no whole frame is pending and none comes, the end of the stream is reported. -/
theorem readFrame_of_closes {session : Session} {error : FrameError}
    (closes : session.stream.Closes) (refused : Frame.parse session.stream.pending = .error error) :
    ∃ failure later, readFrame session = (.error (.io failure), later) ∧
      failure.kind = .unexpectedEof ∧ later.stream.written = session.stream.written := by
  by_cases long : FrameHeader.size ≤ session.stream.pending.length
  · obtain ⟨header, calls, headerFound, headerRead⟩ := readHeader_of_le long
    generalize begun : session.stream.withReading
      (ReadEvent.remaining FrameHeader.size session.stream.events) calls = stream at headerRead
    have pending : stream.pending = session.stream.pending.drop FrameHeader.size := by
      rw [← begun, pending_withReading long]
    have closesStill : stream.Closes := by
      rw [← begun]
      exact ReadEvent.closes_remaining closes long
    have short : stream.pending.length < header.length.toNat := by
      by_contra enough
      rw [Frame.parse, headerFound] at refused
      simp only [bind, Except.bind, FrameHeader.takeFrame, List.length_take, ← pending] at refused
      rw [if_neg (by omega)] at refused
      cases refused
    obtain ⟨failure, last, payloadRead, eof, written⟩ :
        ∃ failure last, readPayload header { session with stream := stream } = _ ∧ _ :=
      @onStream_readExact_of_closes _ { session with stream := stream } closesStill short
    rw [readFrame, bind_of_ok headerRead, bind_of_error payloadRead]
    refine ⟨failure, _, rfl, eof, written.trans ?_⟩
    rw [← begun]
    rfl
  · obtain ⟨failure, stream, headerRead, eof, written⟩ :=
      onStream_readExact_of_closes closes (Nat.lt_of_not_le long)
    have failed : readHeader session = _ := bind_of_error headerRead
    rw [readFrame, bind_of_error failed]
    exact ⟨failure, _, rfl, eof, written⟩

end WebFetch.Session
