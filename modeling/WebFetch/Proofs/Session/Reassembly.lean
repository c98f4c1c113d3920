/-
This file follows a header block from its frames to its header fields. However the block is divided
among frames, and whatever padding and priority surround its first piece, reading the frames yields
what decoding the whole block at once yields, and leaves what follows the last frame unread. Padding
that is longer than what it pads is refused, and the table stays as it is until a frame has said
that the block ends.
-/

import WebFetch.Proofs.Hpack.Interpretation
import WebFetch.Proofs.Session.Serving

namespace WebFetch.Session

open StreamCall

/-! ### The pieces of a header block -/

/-- What surrounds the first piece of a header block in its frame. -/
structure Wrapping where
  padding : Option Octets
  priority : Option Octets
  padding_le : ∀ octets ∈ padding, octets.length ≤ 255
  priority_length : ∀ octets ∈ priority, octets.length = priorityOctets

namespace Wrapping

/-- The octet that holds the length of the padding, if there is padding. -/
def padLength (wrapping : Wrapping) : Octets :=
  wrapping.padding.elim [] fun octets => [UInt8.ofNat octets.length]

/-- A piece with what surrounds it. -/
def wrap (wrapping : Wrapping) (piece : Octets) : Octets :=
  wrapping.padLength ++ wrapping.priority.getD [] ++ piece ++ wrapping.padding.getD []

end Wrapping

/-- Whether frames go on with a header block that has ended before them or not, and only the last
says that it ends. -/
def Continues : (ended : Bool) → List Frame → Prop
  | ended, [] => ended = true
  | ended, frame :: later =>
    ended = false ∧ frame.type = .continuation ∧ Continues (frame.has Flag.endHeaders) later

/-- Whether frames carry a header block: the first a piece of it with what surrounds this piece, and
each of the others a piece without anything else. -/
structure CarriesWrapped (wrapping : Wrapping) (block : Octets) (first : Frame)
    (others : List Frame) : Prop where
  type : first.type = .headers
  padded : first.has Flag.padded = wrapping.padding.isSome
  priority : first.has Flag.priority = wrapping.priority.isSome
  pieces : ∃ piece, first.payload = wrapping.wrap piece ∧
    piece ++ others.flatMap Frame.payload = block
  continues : Continues (first.has Flag.endHeaders) others

/-- How many octets of a frame that begins a header block belong to its padding and priority. -/
def surplus (frame : Frame) : Nat :=
  (if frame.has Flag.padded then 1 + (frame.payload.headD 0).toNat else 0) +
    if frame.has Flag.priority then priorityOctets else 0

/-- A payload that is shorter than its padding and priority is refused. -/
theorem fragment_of_lt {frame : Frame} (short : frame.payload.length < surplus frame) :
    fragment frame = .error .invalidPadding := by
  unfold surplus at short
  unfold fragment
  by_cases padded : frame.has Flag.padded = true
  · rw [if_pos padded] at short ⊢
    cases payload : frame.payload with
    | nil => rfl
    | cons octet octets =>
      rw [payload] at short
      simp only [List.headD_cons] at short
      exact if_pos (by omega)
  · rw [if_neg padded] at short ⊢
    exact if_pos (by omega)

/-- The octets between two others are found by the lengths of these. -/
theorem take_drop_between (front piece back : Octets) :
    ((front ++ piece ++ back).drop front.length).take
      ((front ++ piece ++ back).length - back.length - front.length) = piece := by
  have count : (front ++ piece ++ back).length - back.length - front.length = piece.length := by
    rw [List.length_append, List.length_append]
    omega
  rw [count, List.append_assoc, List.drop_left, List.take_left]

/-- How the length of the padding of a frame is found. -/
def paddingOf (frame : Frame) : Option (Nat × Nat) :=
  if frame.has Flag.padded then frame.payload.head?.map fun octet => (1, octet.toNat)
  else some (0, 0)

theorem paddingOf_of_wrapped {wrapping : Wrapping} {piece : Octets} {frame : Frame}
    (padded : frame.has Flag.padded = wrapping.padding.isSome)
    (payload : frame.payload = wrapping.wrap piece) :
    paddingOf frame = some (wrapping.padLength.length, (wrapping.padding.getD []).length) := by
  unfold paddingOf
  rw [padded, payload, Wrapping.wrap, Wrapping.padLength]
  cases padding : wrapping.padding with
  | none => rfl
  | some octets =>
    have small := wrapping.padding_le octets padding
    have value : (UInt8.ofNat octets.length).toNat = octets.length :=
      UInt8.toNat_ofNat_of_lt' (Nat.lt_succ_of_le small)
    show some (1, (UInt8.ofNat octets.length).toNat) = some (1, octets.length)
    rw [value]

theorem fragment_of_padding {frame : Frame} {padLength padding : Nat}
    (found : paddingOf frame = some (padLength, padding)) :
    fragment frame =
      let start := padLength + if frame.has Flag.priority then priorityOctets else 0
      if frame.payload.length < start + padding then .error .invalidPadding
      else .ok ((frame.payload.drop start).take (frame.payload.length - padding - start)) := by
  unfold paddingOf at found
  rw [fragment, found]

/-- The piece that a frame carries is what stands between its priority and its padding. -/
theorem fragment_of_wrapped {wrapping : Wrapping} {piece : Octets} {frame : Frame}
    (padded : frame.has Flag.padded = wrapping.padding.isSome)
    (priority : frame.has Flag.priority = wrapping.priority.isSome)
    (payload : frame.payload = wrapping.wrap piece) : fragment frame = .ok piece := by
  have priorityLength : (if frame.has Flag.priority then priorityOctets else 0) =
      (wrapping.priority.getD []).length := by
    rw [priority]
    cases given : wrapping.priority with
    | none => rfl
    | some octets => exact (wrapping.priority_length octets given).symm
  have start : wrapping.padLength.length + (if frame.has Flag.priority then priorityOctets else 0) =
      (wrapping.padLength ++ wrapping.priority.getD []).length := by
    rw [priorityLength, List.length_append]
  rw [fragment_of_padding (paddingOf_of_wrapped padded payload), start, payload, Wrapping.wrap]
  dsimp only
  rw [take_drop_between, if_neg]
  rw [List.length_append, List.length_append]
  omega

/-! ### Reading the frames of a block -/

variable {answer : Frame → List Frame} {first frame : Frame} {others more : List Frame}
  {session : Session}

/-- The frames that go on with a block are read to its end. -/
theorem readBlockFrom_of_continues {pieces : List Octets} {ended : Bool}
    (continues : Continues ended others) (unanswered : ∀ frame ∈ others, answer frame = [])
    (serves : session.stream.Serves answer (others ++ more)) :
    ∃ later, readBlockFrom pieces ended session =
        (.ok (pieces.reverse.flatten ++ others.flatMap Frame.payload), later) ∧
      session.stream.Traded others [] later.stream ∧ later.stream.Serves answer more ∧
      later.table = session.table := by
  induction others generalizing pieces ended session with
  | nil =>
    refine ⟨session, ?_, Stream.traded_nil _, serves, rfl⟩
    rw [show ended = true from continues, readBlockFrom_of_ended, List.flatMap_nil,
      List.append_nil]
    rfl
  | cons frame others inductionHypothesis =>
    obtain ⟨rfl, type, continues⟩ := continues
    obtain ⟨unansweredFirst, unansweredOthers⟩ := List.forall_mem_cons.mp unanswered
    obtain ⟨middle, read, traded, middleServes, middleTable⟩ :=
      await_of_serves_of_unanswered type unansweredFirst serves
    obtain ⟨later, whole, tradedLater, laterServes, laterTable⟩ :=
      @inductionHypothesis middle (frame.payload :: pieces) _ continues unansweredOthers
        middleServes
    refine ⟨later, ?_, traded.trans tradedLater, laterServes, laterTable.trans middleTable⟩
    rw [readBlockFrom_of_open, bind_of_ok read, whole, List.reverse_cons, List.flatten_concat,
      List.append_assoc, List.flatMap_cons]

theorem exists_journal_of_reportTable (session : Session) :
    ∃ journal, reportTable session = (.ok (), { session with journal := journal }) :=
  ⟨_, rfl⟩

theorem exists_journal_of_reportHeaders (headers : List Header) (session : Session) :
    ∃ journal, headers.forM reportHeader session =
      (.ok (), { session with journal := journal }) :=
  exists_journal_of_forM (fun _ _ => ⟨_, rfl⟩) headers session

/-- What decoding a block yields for the response that begins with it. -/
def headed (endsStream : Bool) (result : Except HpackError (List Header)) :
    Except SessionError (List Header × Bool) :=
  (result.mapError .hpack).map fun headers => (headers, endsStream)

/-- A header block is read once its frames are read, and is what it decodes to. -/
theorem readHeaders_of_steps {session begun ended : Session} {frame : Frame}
    {first block : Octets}
    (beginning : await .headers session = (.ok frame, begun)) (carried : fragment frame = .ok first)
    (continuing : readBlockFrom [first] (frame.has Flag.endHeaders) begun = (.ok block, ended))
    (journal : Journal) :
    ∃ last, readHeaders session =
        (headed (frame.has Flag.endStream) (Hpack.decode ended.table block journal).result,
          { ended with
            table := (Hpack.decode ended.table block journal).table, journal := last }) := by
  have fragmentTaken : yieldOf (fragment frame) begun = (.ok first, begun) :=
    congrArg (·, begun) carried
  obtain ⟨sameResult, sameTable⟩ :
      (Hpack.decode ended.table block journal).result =
          (Hpack.decode ended.table block ended.journal).result ∧
        (Hpack.decode ended.table block journal).table =
          (Hpack.decode ended.table block ended.journal).table :=
    Hpack.decodeFrom_journal _ _
  rw [sameResult, sameTable, readHeaders, bind_of_ok beginning, bind_of_ok fragmentTaken,
    bind_of_ok continuing]
  have decoding : decodeBlock block ended =
      ((Hpack.decode ended.table block ended.journal).result.mapError .hpack, { ended with
        table := (Hpack.decode ended.table block ended.journal).table
        journal := (Hpack.decode ended.table block ended.journal).journal }) := rfl
  cases decoded : (Hpack.decode ended.table block ended.journal).result with
  | error error =>
    rw [decoded] at decoding
    rw [bind_of_error decoding]
    exact ⟨_, rfl⟩
  | ok headers =>
    rw [decoded] at decoding
    rw [bind_of_ok decoding]
    obtain ⟨tableJournal, tableReported⟩ := exists_journal_of_reportTable { ended with
      table := (Hpack.decode ended.table block ended.journal).table
      journal := (Hpack.decode ended.table block ended.journal).journal }
    obtain ⟨last, reported⟩ := exists_journal_of_reportHeaders headers { ended with
      table := (Hpack.decode ended.table block ended.journal).table, journal := tableJournal }
    rw [bind_of_ok tableReported, bind_of_ok reported]
    exact ⟨_, rfl⟩

/-- The frames of a block are read as what the whole block decodes to, if none is answered. -/
theorem readHeaders_of_continues {piece : Octets} (type : first.type = .headers)
    (carried : fragment first = .ok piece) (continues : Continues (first.has Flag.endHeaders) others)
    (unanswered : ∀ frame ∈ first :: others, answer frame = [])
    (serves : session.stream.Serves answer (first :: others ++ more)) (journal : Journal) :
    let decoding := Hpack.decode session.table (piece ++ others.flatMap Frame.payload) journal
    ∃ later, readHeaders session = (headed (first.has Flag.endStream) decoding.result, later) ∧
      session.stream.Traded (first :: others) [] later.stream ∧
      later.stream.Serves answer more ∧ later.table = decoding.table := by
  obtain ⟨unansweredFirst, unansweredOthers⟩ := List.forall_mem_cons.mp unanswered
  obtain ⟨begun, beginning, traded, begunServes, begunTable⟩ :=
    await_of_serves_of_unanswered type unansweredFirst serves
  obtain ⟨ended, continuing, tradedBlock, endedServes, endedTable⟩ :=
    @readBlockFrom_of_continues _ _ _ begun [piece] _ continues unansweredOthers begunServes
  rw [List.reverse_singleton, List.flatten_singleton] at continuing
  obtain ⟨last, read⟩ := readHeaders_of_steps beginning carried continuing journal
  rw [endedTable, begunTable] at read
  exact ⟨_, read, traded.trans tradedBlock, endedServes, rfl⟩

/-- The frames of a block are read if they are pending. -/
theorem readHeaders_of_wrapped {wrapping : Wrapping} {block rest : Octets}
    (carries : CarriesWrapped wrapping block first others)
    (fits : ∀ frame ∈ first :: others, frame.Fits)
    (pending : session.stream.pending = Frame.encodeAll (first :: others) ++ rest)
    (journal : Journal) :
    ∃ later, readHeaders session =
        (headed (first.has Flag.endStream) (Hpack.decode session.table block journal).result,
          later) ∧
      later.stream.pending = rest ∧
      later.table = (Hpack.decode session.table block journal).table := by
  obtain ⟨piece, payload, rfl⟩ := carries.pieces
  have serves : session.stream.Serves (fun _ => []) (first :: others ++ []) := by
    rw [List.append_nil]
    exact ReadEvent.serves_of_pending fits pending
  obtain ⟨later, read, traded, _, table⟩ := readHeaders_of_continues carries.type
    (fragment_of_wrapped carries.padded carries.priority payload) carries.continues
    (fun _ _ => rfl) serves journal
  exact ⟨later, read, traded.pending pending, table⟩

/-- A first frame that is shorter than its padding and priority is refused, and no other is read. -/
theorem readHeaders_of_surplus {rest : Octets} (type : frame.type = .headers) (fits : frame.Fits)
    (short : frame.payload.length < surplus frame)
    (pending : session.stream.pending = frame.encode ++ rest) :
    ∃ later, readHeaders session = (.error .invalidPadding, later) ∧
      later.stream.pending = rest ∧ later.table = session.table := by
  have pending : session.stream.pending = Frame.encodeAll [frame] ++ rest := by
    rw [pending, Frame.encodeAll, List.flatMap_singleton]
  have serves : session.stream.Serves (fun _ => []) [frame] :=
    ReadEvent.serves_of_pending (List.forall_mem_singleton.mpr fits) pending
  obtain ⟨begun, beginning, traded, _, begunTable⟩ :=
    await_of_serves_of_unanswered type rfl serves
  have refused : yieldOf (fragment frame) begun = (.error .invalidPadding, begun) :=
    congrArg (·, begun) (fragment_of_lt short)
  rw [readHeaders, bind_of_ok beginning, bind_of_error refused]
  exact ⟨begun, rfl, traded.pending pending, begunTable⟩

/-! ### The table until the block has ended -/

/-- Whether a frame says that a header block ends. -/
def EndsBlock (frame : Frame) : Prop :=
  (frame.type = .headers ∨ frame.type = .continuation) ∧ frame.has Flag.endHeaders = true

/-- A block ends with a frame that says so. -/
theorem exists_endsBlock {ended : Bool} {frames : List Frame} (continues : Continues ended frames) :
    ended = true ∨ ∃ frame ∈ frames, EndsBlock frame := by
  induction frames generalizing ended with
  | nil => exact Or.inl continues
  | cons frame later inductionHypothesis =>
    obtain ⟨_, type, continues⟩ := continues
    rcases inductionHypothesis continues with ends | ⟨other, member, ends⟩
    · exact Or.inr ⟨frame, List.mem_cons_self, Or.inr type, ends⟩
    · exact Or.inr ⟨other, List.mem_cons_of_mem _ member, ends⟩

/-- Whether a session has come from another by calls that received some octets of frames, all of
them whole if it came so far, while the table stayed as it was. -/
structure Receives (start : Session) (made : List StreamCall) (session : Session) : Prop where
  after : start.stream.After made session.stream
  table : session.table = start.table

theorem Receives.trans {start middle session : Session} {first second : List StreamCall}
    (before : Receives start first middle) (after : Receives middle second session) :
    Receives start (first ++ second) session :=
  ⟨before.after.trans after.after, after.table.trans before.table⟩

/-- Waiting for a frame leaves the table as it is. -/
theorem exists_receives_await (expected : FrameType) (session : Session) :
    ∃ made, Receives session made (await expected session).2 ∧
      ∀ frame, (await expected session).1 = .ok frame →
        frame.type = expected ∧ Frame.parseAll (allReceived made) = ([frame], []) := by
  obtain ⟨made, after, _, _, table, result⟩ := exists_after_readFrame session
  cases read : readFrame session with
  | mk outcome later =>
    rw [read] at after table result
    cases outcome with
    | error error =>
      rw [await, bind_of_error read]
      exact ⟨made, ⟨after, table⟩, fun _ same => by cases same⟩
    | ok frame =>
      rw [await, bind_of_ok read]
      refine ⟨made, ⟨after, table⟩, fun other same => ?_⟩
      obtain ⟨rfl, type⟩ := type_of_requireType same
      exact ⟨type, result.1⟩

/-- Reading on to the end of a block leaves the table as it is, and all frames that are read go on
with the block. -/
theorem exists_receives_readBlockFrom (pieces : List Octets) (ended : Bool) (session : Session) :
    ∃ made, Receives session made (readBlockFrom pieces ended session).2 ∧
      ∀ block, (readBlockFrom pieces ended session).1 = .ok block →
        ∃ frames, Continues ended frames ∧ Frame.parseAll (allReceived made) = (frames, []) := by
  induction weight : session.stream.weight using Nat.strongRecOn
    generalizing pieces ended session with
  | ind count inductionHypothesis =>
    subst weight
    cases ended with
    | true =>
      rw [readBlockFrom_of_ended]
      exact ⟨[], ⟨Stream.after_nil _, rfl⟩, fun _ _ => ⟨[], rfl, Frame.parseAll_nil⟩⟩
    | false =>
      obtain ⟨first, receives, awaited⟩ := exists_receives_await .continuation session
      rw [readBlockFrom_of_open]
      cases read : await .continuation session with
      | mk outcome middle =>
        rw [read] at receives awaited
        cases outcome with
        | error error =>
          rw [bind_of_error read]
          exact ⟨first, receives, fun _ same => nomatch same⟩
        | ok frame =>
          rw [bind_of_ok read]
          obtain ⟨type, received⟩ := awaited frame rfl
          obtain ⟨more, moreReceives, result⟩ := inductionHypothesis _ (weight_await_lt read)
            (frame.payload :: pieces) (frame.has Flag.endHeaders) middle rfl
          refine ⟨first ++ more, receives.trans moreReceives, fun block found => ?_⟩
          obtain ⟨frames, continues, others⟩ := result block found
          refine ⟨frame :: frames, ⟨rfl, type, continues⟩, ?_⟩
          rw [allReceived_append, Frame.parseAll_append_of_whole received, others]
          rfl

/-- The table stays as it is unless a frame was received that says that the block ends. -/
theorem exists_after_readHeaders (session : Session) :
    ∃ made, session.stream.After made (readHeaders session).2.stream ∧
      ((readHeaders session).2.table = session.table ∨
        ∃ frame ∈ framesOf made, EndsBlock frame) := by
  obtain ⟨first, receives, awaited⟩ := exists_receives_await .headers session
  cases beginning : await .headers session with
  | mk outcome begun =>
    rw [beginning] at receives awaited
    cases outcome with
    | error error =>
      rw [readHeaders, bind_of_error beginning]
      exact ⟨first, receives.after, Or.inl receives.table⟩
    | ok frame =>
      obtain ⟨type, received⟩ := awaited frame rfl
      cases carried : fragment frame with
      | error error =>
        have refused : yieldOf (fragment frame) begun = (.error error, begun) :=
          congrArg (·, begun) carried
        rw [readHeaders, bind_of_ok beginning, bind_of_error refused]
        exact ⟨first, receives.after, Or.inl receives.table⟩
      | ok piece =>
        have taken : yieldOf (fragment frame) begun = (.ok piece, begun) :=
          congrArg (·, begun) carried
        obtain ⟨more, moreReceives, gathered⟩ :=
          exists_receives_readBlockFrom [piece] (frame.has Flag.endHeaders) begun
        have both := receives.trans moreReceives
        cases continuing : readBlockFrom [piece] (frame.has Flag.endHeaders) begun with
        | mk outcome ended =>
          rw [continuing] at both gathered
          cases outcome with
          | error error =>
            rw [readHeaders, bind_of_ok beginning, bind_of_ok taken, bind_of_error continuing]
            exact ⟨first ++ more, both.after, Or.inl both.table⟩
          | ok block =>
            obtain ⟨last, read⟩ :=
              readHeaders_of_steps beginning carried continuing ended.journal
            rw [read]
            refine ⟨first ++ more, both.after, Or.inr ?_⟩
            -- The block is whole, so one of its frames has said that it ends.
            obtain ⟨frames, continues, others⟩ := gathered block rfl
            rw [framesOf_append received, framesOf, others]
            rcases exists_endsBlock continues with ends | ⟨other, member, ends⟩
            · exact ⟨frame, List.mem_append_left _ (List.mem_singleton_self _), Or.inl type, ends⟩
            · exact ⟨other, List.mem_append_right _ member, ends⟩

/-! ### Header blocks -/

/-- However a header block is divided among frames and whatever surrounds its first piece, reading
the frames yields what decoding the whole block at once yields, with the end of the stream as the
first frame says, and reads nothing else. A first frame that is shorter than its padding and
priority is refused. However the stream goes on, the table stays as it is as long as no frame has
said that the block ends. -/
theorem readHeaders_reassembles (session : Session) :
    (∀ (wrapping : Wrapping) (block : Octets) (first : Frame) (others : List Frame)
      (rest : Octets) (journal : Journal), CarriesWrapped wrapping block first others →
      (∀ frame ∈ first :: others, frame.Fits) →
      session.stream.pending = Frame.encodeAll (first :: others) ++ rest →
        ∃ later, readHeaders session =
            (headed (first.has Flag.endStream) (Hpack.decode session.table block journal).result,
              later) ∧
          later.stream.pending = rest ∧
          later.table = (Hpack.decode session.table block journal).table) ∧
    (∀ (frame : Frame) (rest : Octets), frame.type = .headers → frame.Fits →
      frame.payload.length < surplus frame →
      session.stream.pending = frame.encode ++ rest →
        ∃ later, readHeaders session = (.error .invalidPadding, later) ∧
          later.stream.pending = rest ∧ later.table = session.table) ∧
    ∃ made, session.stream.After made (readHeaders session).2.stream ∧
      ((readHeaders session).2.table = session.table ∨
        ∃ frame ∈ framesOf made, EndsBlock frame) :=
  ⟨fun _ _ _ _ _ journal carries fits pending =>
      readHeaders_of_wrapped carries fits pending journal,
    fun _ _ type fits short pending => readHeaders_of_surplus type fits short pending,
    exists_after_readHeaders session⟩

/-- A padding of two octets and a priority. -/
def priorityWrapping : Wrapping :=
  ⟨some [9, 9], some [0, 0, 0, 0, 15], by decide, by decide⟩

/-- A first frame that ends the stream and carries the beginning of a field. -/
def paddedFrame : Frame :=
  ⟨.headers, 0x29, 1, [2, 0, 0, 0, 0, 15, 0x88, 0x40, 9, 9]⟩

/-- Frames that carry the rest of the field, one of them nothing. -/
def continuedFrames : List Frame :=
  [⟨.continuation, 0x08, 1, [4, 0x65]⟩, ⟨.continuation, 0, 1, []⟩,
    ⟨.continuation, 0x04, 1, [0x74, 0x61, 0x67, 3, 0x61, 0x62, 0x63]⟩]

/-- What the frames carry. -/
def taggedBlock : List Hpack.Representation :=
  [.indexed 8, .literal .incremental (.written false (Ascii.octets "etag")) false
    (Ascii.octets "abc")]

/-- A frame that announces more padding than it has octets. -/
def overpaddedFrame : Frame := ⟨.headers, 0x0c, 1, [200, 0x88]⟩

/-- A session on which octets arrive before the connection is reset. -/
def arriving (octets : Octets) : Session :=
  new .default (Stream.ofEvents [.arrive octets, .fail ⟨.connectionReset, "reset"⟩]) .silent

theorem readHeaders_reassembles_paddedFrame :
    (∃ later, readHeaders (arriving (Frame.encodeAll (paddedFrame :: continuedFrames))) =
        (.ok ([⟨Ascii.octets ":status", Ascii.octets "200"⟩,
          ⟨Ascii.octets "etag", Ascii.octets "abc"⟩], true), later) ∧
      later.stream.pending = [] ∧
      later.table = ⟨[⟨Ascii.octets "etag", Ascii.octets "abc"⟩], 39, 4096⟩) ∧
    (∃ later, readHeaders (arriving overpaddedFrame.encode) = (.error .invalidPadding, later) ∧
      later.table = .empty 4096) := by
  have carries : CarriesWrapped priorityWrapping (Hpack.wire taggedBlock) paddedFrame
      continuedFrames :=
    ⟨rfl, by decide, by decide, ⟨[0x88, 0x40], by decide +kernel, by decide +kernel⟩,
      ⟨by decide, rfl, by decide, rfl, by decide, rfl, rfl⟩⟩
  have fits : ∀ frame ∈ overpaddedFrame :: paddedFrame :: continuedFrames, frame.Fits := by
    have small : ∀ frame ∈ overpaddedFrame :: paddedFrame :: continuedFrames,
        FrameType.ofCode frame.type.code = frame.type ∧ frame.payload.length < wordLimit24 ∧
          frame.stream.toNat < wordLimit31 := by decide
    exact fun frame member => ⟨(small frame member).1, (small frame member).2.1,
      (small frame member).2.2⟩
  obtain ⟨result, table⟩ := Hpack.decodeFrom_wire (Hpack.wire taggedBlock).length []
    (.empty DynamicTable.defaultMaximum) .silent taggedBlock (by decide) (by decide +kernel)
  obtain ⟨later, read, left, tableAfter⟩ :=
    (readHeaders_reassembles (arriving (Frame.encodeAll (paddedFrame :: continuedFrames)))).1
      priorityWrapping (Hpack.wire taggedBlock) paddedFrame continuedFrames [] .silent carries
      (fun frame member => fits frame (List.mem_cons_of_mem _ member)) rfl
  obtain ⟨last, refused, _, kept⟩ :=
    (readHeaders_reassembles (arriving overpaddedFrame.encode)).2.1 overpaddedFrame [] rfl
      (fits overpaddedFrame List.mem_cons_self) (by decide) rfl
  refine ⟨⟨later, read.trans (congrArg (·, later) ?_), left, tableAfter.trans ?_⟩, last, refused,
    kept⟩
  · exact (congrArg (headed _) result).trans (by decide +kernel)
  · exact table.trans (by decide +kernel)

end WebFetch.Session
