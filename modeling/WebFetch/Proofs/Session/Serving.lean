/-
This file is about another side that serves frames one after the other. It may wait with each of
them until the frames before it are answered, as a server does that has no more credit, and the
octets may arrive in any pieces. A session reads such frames in turn, and what it answers is sent as
long as the stream lets it. What both come to is said of the stream at once: which octets of the
script are gone, and which were written.
-/

import WebFetch.Proofs.Session.Conversation
import WebFetch.Proofs.Session.Frames

namespace WebFetch

open StreamCall

/-! ### Frames that are served -/

/-- Whether events have frames in store, each of which is pending once the frames before it were
read and answered. -/
def ReadEvent.Serves (answer : Frame → List Frame) :
    (written : Octets) → List ReadEvent → List Frame → Prop
  | _, _, [] => True
  | written, events, frame :: later =>
    (∃ left, Frame.parse (pending written events) = .ok (frame, left)) ∧
      Serves answer (written ++ Frame.encodeAll (answer frame))
        (remaining frame.encode.length events) later

namespace Stream

/-- Whether the frames that come are these, as long as each is answered before the next is read. -/
def Serves (answer : Frame → List Frame) (frames : List Frame) (stream : Stream) : Prop :=
  ReadEvent.Serves answer stream.written stream.events frames

/-- Whether frames can be sent one after the other: each is written whole and passed on. -/
def CanSend : List Frame → Stream → Prop
  | [], _ => True
  | frame :: later, stream =>
    ∃ taken passed, stream.writeAll frame.encode = (.ok (), taken) ∧
      taken.flush = (.ok (), passed) ∧ passed.CanSend later

/-- Whether a stream has come from another while frames were received and frames were sent, and
nothing else was. -/
structure Traded (received sent : List Frame) (start stream : Stream) : Prop where
  events : stream.events =
    ReadEvent.remaining (Frame.encodeAll received).length start.events
  written : stream.written = start.written ++ Frame.encodeAll sent
  canSend : ∀ more, start.CanSend (sent ++ more) → stream.CanSend more
  accepts : start.Accepts → stream.Accepts

/-- Whether the last that happened on a stream is that a frame was read: the last calls are reads,
and what they yield is this frame and nothing else. -/
def LastReceived (frame : Frame) (stream : Stream) : Prop :=
  ∃ earlier made, stream.calls = earlier ++ made ∧ (∀ call ∈ made, call.IsRead) ∧
    Frame.parseAll (allReceived made) = ([frame], [])

end Stream

/-- Frames that are served after others are served once these were read and answered. -/
theorem ReadEvent.Serves.of_append {answer : Frame → List Frame} {written : Octets}
    {events : List ReadEvent} {frames more : List Frame}
    (serves : Serves answer written events (frames ++ more)) :
    Serves answer (written ++ Frame.encodeAll (frames.flatMap answer))
      (remaining (Frame.encodeAll frames).length events) more := by
  induction frames generalizing written events with
  | nil =>
    rw [List.flatMap_nil]
    show Serves answer (written ++ []) (remaining 0 events) more
    rw [List.append_nil, remaining_zero]
    exact serves
  | cons frame frames inductionHypothesis =>
    have later := inductionHypothesis serves.2
    rw [remaining_remaining, ← List.length_append, ← Frame.encodeAll_cons, List.append_assoc,
      ← Frame.encodeAll_append, ← List.flatMap_cons] at later
    exact later

/-- The payloads of frames that are served have lengths of 24 bits. -/
theorem ReadEvent.Serves.length_payload_lt {answer : Frame → List Frame} {written : Octets}
    {events : List ReadEvent} {frames : List Frame} (serves : Serves answer written events frames) :
    ∀ frame ∈ frames, frame.payload.length < wordLimit24 := by
  induction frames generalizing written events with
  | nil => exact fun _ member => nomatch member
  | cons frame frames inductionHypothesis =>
    obtain ⟨⟨left, found⟩, later⟩ := serves
    exact List.forall_mem_cons.mpr
      ⟨Frame.length_payload_lt_of_parse found, inductionHypothesis later⟩

/-- Frames that are pending are served, and need no answer for it. -/
theorem ReadEvent.serves_of_pending {written rest : Octets} {events : List ReadEvent}
    {frames : List Frame} (fits : ∀ frame ∈ frames, frame.Fits)
    (found : pending written events = Frame.encodeAll frames ++ rest) :
    Serves (fun _ => []) written events frames := by
  induction frames generalizing events with
  | nil => trivial
  | cons frame frames inductionHypothesis =>
    obtain ⟨fitsFirst, fitsOthers⟩ := List.forall_mem_cons.mp fits
    rw [Frame.encodeAll_cons, List.append_assoc] at found
    have enough : frame.encode.length ≤ (pending written events).length := by
      rw [found, List.length_append]
      exact Nat.le_add_right _ _
    refine ⟨⟨_, by rw [found, Frame.parse_encode fitsFirst]⟩, ?_⟩
    show Serves _ (written ++ []) _ _
    rw [List.append_nil]
    refine inductionHypothesis fitsOthers ?_
    rw [pending_remaining enough, found, List.drop_left]

namespace Stream

variable {start middle stream : Stream}

/-- Octets behind frames are pending once the frames were received. -/
theorem Traded.pending {received : List Frame} {rest : Octets}
    (traded : Traded received [] start stream)
    (found : start.pending = Frame.encodeAll received ++ rest) : stream.pending = rest := by
  have enough : (Frame.encodeAll received).length ≤ start.pending.length := by
    rw [found, List.length_append]
    exact Nat.le_add_right _ _
  have written : stream.written = start.written := traded.written.trans (List.append_nil _)
  have left : ReadEvent.pending start.written
      (ReadEvent.remaining (Frame.encodeAll received).length start.events) =
        start.pending.drop (Frame.encodeAll received).length :=
    ReadEvent.pending_remaining enough
  rw [Stream.pending, written, traded.events, left, found, List.drop_left]

theorem traded_nil (stream : Stream) : Traded [] [] stream stream :=
  ⟨(ReadEvent.remaining_zero _).symm, (List.append_nil _).symm, fun _ can => can, id⟩

theorem Traded.trans {received sent moreReceived moreSent : List Frame}
    (before : Traded received sent start middle)
    (after : Traded moreReceived moreSent middle stream) :
    Traded (received ++ moreReceived) (sent ++ moreSent) start stream := by
  refine ⟨?_, ?_, fun more can => ?_, after.accepts ∘ before.accepts⟩
  · rw [after.events, before.events, ReadEvent.remaining_remaining, Frame.encodeAll_append,
      List.length_append]
  · rw [after.written, before.written, Frame.encodeAll_append, List.append_assoc]
  · rw [List.append_assoc] at can
    exact after.canSend more (before.canSend _ can)

/-- Frames that come after others come once these were received and answered. -/
theorem Serves.after {answer : Frame → List Frame} {frames more : List Frame}
    (serves : start.Serves answer (frames ++ more))
    (traded : Traded frames (frames.flatMap answer) start stream) : stream.Serves answer more := by
  rw [Serves, traded.written, traded.events]
  exact ReadEvent.Serves.of_append serves

theorem Serves.tail {answer : Frame → List Frame} {frame : Frame} {more : List Frame}
    (serves : start.Serves answer (frame :: more))
    (traded : Traded [frame] (answer frame) start stream) : stream.Serves answer more := by
  rw [← List.flatMap_singleton answer frame] at traded
  exact Serves.after serves traded

/-! ### Frames that can be sent -/

/-- A stream that accepts everything lets any frames be sent. -/
theorem Accepts.canSend (accepts : stream.Accepts) (frames : List Frame) :
    stream.CanSend frames := by
  induction frames generalizing stream with
  | nil => trivial
  | cons frame frames inductionHypothesis =>
    obtain ⟨taken, wrote, takenAccepts, _⟩ := writeAll_of_accepts accepts frame.encode
    obtain ⟨passed, flushed, passedAccepts, _⟩ := flush_of_accepts takenAccepts
    exact ⟨taken, passed, wrote, flushed, inductionHypothesis passedAccepts⟩

/-- What can be sent does not depend on what is read. -/
theorem CanSend.withReading {frames : List Frame} (can : stream.CanSend frames)
    (events : List ReadEvent) (calls : List StreamCall) :
    (stream.withReading events calls).CanSend frames := by
  induction frames generalizing stream calls with
  | nil => trivial
  | cons frame frames inductionHypothesis =>
    obtain ⟨taken, passed, wrote, flushed, later⟩ := can
    obtain ⟨takenCalls, wroteToo⟩ := ignoresReading_writeAll frame.encode events calls stream
    rw [wrote] at wroteToo
    obtain ⟨passedCalls, flushedToo⟩ := ignoresReading_flush events takenCalls taken
    rw [flushed] at flushedToo
    exact ⟨_, _, wroteToo, flushedToo, inductionHypothesis later passedCalls⟩

/-- Octets that were written whole are added to those written before. -/
theorem written_writeAll {octets : Octets} (wrote : stream.writeAll octets = (.ok (), middle)) :
    middle.written = stream.written ++ octets := by
  obtain ⟨made, after, _, writes⟩ := exists_after_writeAll octets stream
  rw [wrote] at after writes
  rw [after.written, writes.1]

theorem written_flush (stream : Stream) : stream.flush.2.written = stream.written := by
  unfold flush
  split <;> rfl

end Stream

namespace Session

variable {answer : Frame → List Frame} {frame : Frame} {session : Session}

/-! ### One frame -/

/-- A frame that is served is read. -/
theorem readFrame_of_serves {frames : List Frame}
    (serves : session.stream.Serves answer (frame :: frames)) :
    ∃ later, readFrame session = (.ok frame, later) ∧
      Stream.Traded [frame] [] session.stream later.stream ∧ later.stream.LastReceived frame ∧
      later.table = session.table := by
  obtain ⟨left, found⟩ := serves.1
  obtain ⟨calls, journal, read⟩ := readFrame_of_parse found
  obtain ⟨made, after, awaits, _, _, result⟩ := exists_after_readFrame session
  rw [read] at after result
  have size : (Frame.encodeAll [frame]).length = frame.encode.length := by
    rw [Frame.encodeAll, List.flatMap_singleton]
  refine ⟨_, read, ⟨?_, (List.append_nil _).symm, fun more can => can.withReading _ calls,
    fun accepts => ⟨accepts.events, accepts.writes, accepts.flushes⟩⟩,
    ⟨_, made, after.calls, awaits.isRead, result.1⟩, rfl⟩
  rw [size]
  rfl

/-- A frame of the response is read and judged by its type. -/
theorem await_of_serves {frames : List Frame}
    (serves : session.stream.Serves answer (frame :: frames)) (expected : FrameType) :
    ∃ later, await expected session = (requireType expected frame, later) ∧
      Stream.Traded [frame] [] session.stream later.stream ∧ later.stream.LastReceived frame ∧
      later.table = session.table := by
  obtain ⟨later, read, rest⟩ := readFrame_of_serves serves
  refine ⟨later, ?_, rest⟩
  rw [await, bind_of_ok read]
  rfl

/-- A frame of the awaited type is read that is not answered, and others come after it. -/
theorem await_of_serves_of_unanswered {expected : FrameType} {more : List Frame}
    (type : frame.type = expected) (unanswered : answer frame = [])
    (serves : session.stream.Serves answer (frame :: more)) :
    ∃ later, await expected session = (.ok frame, later) ∧
      Stream.Traded [frame] [] session.stream later.stream ∧ later.stream.Serves answer more ∧
      later.table = session.table := by
  obtain ⟨later, read, traded, _, table⟩ := await_of_serves serves expected
  rw [requireType, if_pos type] at read
  refine ⟨later, read, traded, serves.tail ?_, table⟩
  rw [unanswered]
  exact traded

/-- A frame that can be sent is written. -/
theorem writeFrame_of_canSend {more : List Frame} (can : session.stream.CanSend (frame :: more)) :
    ∃ later, writeFrame frame session = (.ok (), later) ∧
      Stream.Traded [] [frame] session.stream later.stream ∧ later.table = session.table := by
  obtain ⟨taken, passed, wrote, flushed, _⟩ := can
  obtain ⟨journal, writing⟩ := writeFrame_of_steps wrote flushed
  have takenEvents := (Stream.ignoresReading_writeAll frame.encode).events session.stream
  have passedEvents := Stream.ignoresReading_flush.events taken
  have passedWritten := taken.written_flush
  rw [wrote] at takenEvents
  rw [flushed] at passedEvents passedWritten
  refine ⟨_, writing, ⟨?_, ?_, ?_, fun accepts => ?_⟩, rfl⟩
  · show passed.events = ReadEvent.remaining 0 session.stream.events
    rw [ReadEvent.remaining_zero, passedEvents, takenEvents]
  · show passed.written = _
    rw [passedWritten, Stream.written_writeAll wrote, Frame.encodeAll, List.flatMap_singleton]
  · rintro others ⟨sameTaken, samePassed, wroteToo, flushedToo, later⟩
    rw [wrote] at wroteToo
    cases wroteToo
    rw [flushed] at flushedToo
    cases flushedToo
    exact later
  · obtain ⟨_, wroteToo, takenAccepts, _⟩ := Stream.writeAll_of_accepts accepts frame.encode
    rw [wrote] at wroteToo
    cases wroteToo
    obtain ⟨_, flushedToo, passedAccepts, _⟩ := Stream.flush_of_accepts takenAccepts
    rw [flushed] at flushedToo
    cases flushedToo
    exact passedAccepts

/-- Frames that can be sent are written in order. -/
theorem writeFrames_of_canSend {frames more : List Frame}
    (can : session.stream.CanSend (frames ++ more)) :
    ∃ later, writeFrames frames session = (.ok (), later) ∧
      Stream.Traded [] frames session.stream later.stream ∧ later.table = session.table := by
  induction frames generalizing session with
  | nil => exact ⟨session, rfl, Stream.traded_nil _, rfl⟩
  | cons frame frames inductionHypothesis =>
    obtain ⟨middle, first, firstTraded, firstTable⟩ := writeFrame_of_canSend can
    obtain ⟨later, others, traded, table⟩ := inductionHypothesis (firstTraded.canSend _ can)
    exact ⟨later, (bind_of_ok first).trans others, firstTraded.trans traded,
      table.trans firstTable⟩

/-- A stream that accepts everything takes a frame whole. -/
theorem writeFrame_of_accepts (accepts : session.stream.Accepts) (frame : Frame) :
    ∃ later, writeFrame frame session = (.ok (), later) ∧ later.stream.Accepts ∧
      later.stream.written = session.stream.written ++ frame.encode := by
  obtain ⟨later, wrote, traded, _⟩ := writeFrame_of_canSend (accepts.canSend [frame])
  refine ⟨later, wrote, traded.accepts accepts, ?_⟩
  rw [traded.written, Frame.encodeAll, List.flatMap_singleton]

/-- A stream that accepts everything takes frames in order. -/
theorem writeFrames_of_accepts (accepts : session.stream.Accepts) (frames : List Frame) :
    ∃ later, writeFrames frames session = (.ok (), later) ∧ later.stream.Accepts ∧
      later.stream.written = session.stream.written ++ Frame.encodeAll frames := by
  obtain ⟨later, wrote, traded, _⟩ := writeFrames_of_canSend (accepts.canSend (frames ++ []))
  exact ⟨later, wrote, traded.accepts accepts, traded.written⟩

end Session

end WebFetch
