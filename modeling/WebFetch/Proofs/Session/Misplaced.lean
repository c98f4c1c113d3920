/-
This file is about frames of a response that stand where frames of another type have to. A response
begins with a frame that begins a header block, goes on with frames that continue it up to its end,
and then with frames of the body up to the end of the stream. Wherever in such a run the first frame
of another type comes, it ends the exchange with the same report, it is the last that is read, and
nothing is written after it.
-/

import WebFetch.Proofs.Session.Credit
import WebFetch.Proofs.Session.Reassembly
import WebFetch.Proofs.Session.Safety
import WebFetch.Proofs.Session.Settling

namespace WebFetch.Session

/-! ### Which type comes next -/

/-- Whether a frame continues a header block, and the block goes on after it. -/
structure ContinuesBlock (frame : Frame) : Prop where
  type : frame.type = .continuation
  unended : frame.has Flag.endHeaders = false

/-- Whether frames are the beginning of a header block that has not ended, and the type of the frame
that has to follow. -/
inductive OpensBlock : List Frame → FrameType → Prop where
  | nothing : OpensBlock [] .headers
  | begun {first : Frame} {others : List Frame} {piece : Octets} (type : first.type = .headers)
      (carried : fragment first = .ok piece) (unended : first.has Flag.endHeaders = false)
      (continues : ∀ frame ∈ others, ContinuesBlock frame) :
      OpensBlock (first :: others) .continuation

/-- Whether frames are the beginning of a response that has not ended, and the type of the frame
that has to follow. -/
inductive OpensResponse (table : DynamicTable) : List Frame → FrameType → Prop where
  | head {block : List Frame} {mandated : FrameType} (opens : OpensBlock block mandated) :
      OpensResponse table block mandated
  | body {block body : List Frame} (heads : IsHeaderBlock table false block)
      (goesOn : ∀ frame ∈ body, GoesOn frame) : OpensResponse table (block ++ body) .data

variable {session : Session} {frame last : Frame} {block body more : List Frame}
  {pieces : List Octets} {mandated : FrameType}

/-- A frame that does not belong to a body is not answered. -/
theorem creditOf_of_ne {received : FrameType} (type : frame.type = received)
    (other : received ≠ .data) : creditOf frame = [] :=
  if_neg fun goesOn => other (type.symm.trans goesOn.type)

/-- The frames of a header block are not answered. -/
theorem creditOf_of_headerBlock {first : Frame} {others : List Frame} (type : first.type = .headers)
    (continuations : ∀ frame ∈ others, frame.type = .continuation) :
    ∀ frame ∈ first :: others, creditOf frame = [] :=
  List.forall_mem_cons.mpr ⟨creditOf_of_ne type (by decide),
    fun frame member => creditOf_of_ne (continuations frame member) (by decide)⟩

theorem OpensBlock.flatMap_creditOf (opens : OpensBlock block mandated) :
    block.flatMap creditOf = [] := by
  cases opens with
  | nothing => rfl
  | begun type _ _ continues =>
    exact List.flatMap_eq_nil_iff.mpr
      (creditOf_of_headerBlock type fun frame member => (continues frame member).type)

/-! ### The header block -/

/-- Frames that continue a header block are read as long as it goes on. -/
theorem readBlockFrom_of_forall_continues {others : List Frame}
    (continues : ∀ frame ∈ others, ContinuesBlock frame)
    (serves : session.stream.Serves creditOf (others ++ more)) :
    ∃ later, readBlockFrom pieces false session =
        readBlockFrom ((others.map Frame.payload).reverse ++ pieces) false later ∧
      session.stream.Traded others [] later.stream ∧ later.stream.Serves creditOf more ∧
      later.table = session.table := by
  induction others generalizing session pieces with
  | nil => exact ⟨session, rfl, Stream.traded_nil _, serves, rfl⟩
  | cons frame others inductionHypothesis =>
    obtain ⟨continuesFirst, continuesOthers⟩ := List.forall_mem_cons.mp continues
    obtain ⟨middle, read, traded, laterServes, table⟩ :=
      await_of_serves_of_unanswered continuesFirst.type
        (creditOf_of_ne continuesFirst.type (by decide)) serves
    obtain ⟨later, rest, tradedLater, lastServes, laterTable⟩ :=
      @inductionHypothesis middle (frame.payload :: pieces) continuesOthers laterServes
    refine ⟨later, ?_, traded.trans tradedLater, lastServes, laterTable.trans table⟩
    rw [readBlockFrom_of_open, bind_of_ok read, continuesFirst.unended, rest, List.map_cons,
      List.reverse_cons, List.append_assoc]
    rfl

/-- A frame that stands in a header block where one of another type has to is reported. -/
theorem readHeaders_of_misplaced (opens : OpensBlock block mandated)
    (misplaced : last.type ≠ mandated)
    (serves : session.stream.Serves creditOf (block ++ [last])) :
    ∃ later, readHeaders session = (.error (outOfPlace mandated last), later) ∧
      session.stream.Traded (block ++ [last]) [] later.stream ∧ later.stream.LastReceived last ∧
      later.table = session.table := by
  cases opens with
  | nothing =>
    obtain ⟨later, read, rest⟩ := await_of_serves serves .headers
    rw [requireType_of_ne misplaced] at read
    exact ⟨later, bind_of_error read, rest⟩
  | @begun first others piece type carried unended continues =>
    obtain ⟨begun, beginning, traded, begunServes, begunTable⟩ :=
      await_of_serves_of_unanswered type (creditOf_of_ne type (by decide)) serves
    obtain ⟨middle, run, tradedMiddle, lastServes, middleTable⟩ :=
      @readBlockFrom_of_forall_continues begun [last] [piece] others continues begunServes
    obtain ⟨later, read, tradedLast, received, laterTable⟩ :=
      await_of_serves lastServes .continuation
    rw [requireType_of_ne misplaced] at read
    have taken : yieldOf (fragment first) begun = (.ok piece, begun) := congrArg (·, begun) carried
    refine ⟨later, ?_, (traded.trans tradedMiddle).trans tradedLast, received,
      laterTable.trans (middleTable.trans begunTable)⟩
    rw [readHeaders, bind_of_ok beginning, bind_of_ok taken, unended]
    exact bind_of_error (by rw [run, readBlockFrom_of_open, bind_of_error read])

/-- The frames of a whole header block go on with it up to its end. -/
theorem continues_of_closes {first : Frame} {others before : List Frame}
    (continuations : ∀ frame ∈ others, frame.type = .continuation)
    (parts : first :: others = before ++ [last]) (ends : last.has Flag.endHeaders = true)
    (opens : ∀ frame ∈ before, frame.has Flag.endHeaders = false) :
    Continues (first.has Flag.endHeaders) others := by
  induction before generalizing first others with
  | nil =>
    cases parts
    exact ends
  | cons head before inductionHypothesis =>
    rw [List.cons_append] at parts
    obtain ⟨rfl, rfl⟩ := List.cons.inj parts
    obtain ⟨unended, unendedOthers⟩ := List.forall_mem_cons.mp opens
    cases joined : before ++ [last] with
    | nil => exact absurd joined (List.append_ne_nil_of_right_ne_nil _ (List.cons_ne_nil _ _))
    | cons second later =>
      rw [joined] at continuations
      obtain ⟨type, laterTypes⟩ := List.forall_mem_cons.mp continuations
      exact ⟨unended, type, inductionHypothesis laterTypes joined.symm unendedOthers⟩

/-- A whole header block with a status is read. -/
theorem readHeaders_of_isHeaderBlock {ends : Bool} (heads : IsHeaderBlock session.table ends block)
    (serves : session.stream.Serves creditOf (block ++ more)) :
    ∃ headers status later, readHeaders session = (.ok (headers, ends), later) ∧
      parseStatus headers = .ok status ∧ session.stream.Traded block [] later.stream ∧
      later.stream.Serves creditOf more := by
  obtain ⟨⟨first, others, piece, headers, status, rfl, type, endsStream, continuations, carried,
    decoded, parsed⟩, before, final, parts, finalEnds, opens⟩ := heads
  obtain ⟨later, read, traded, laterServes, _⟩ := readHeaders_of_continues type carried
    (continues_of_closes continuations parts finalEnds opens)
    (creditOf_of_headerBlock type continuations) serves .silent
  rw [decoded, endsStream] at read
  exact ⟨headers, status, later, read, parseStatus_eq_ok_iff.mpr parsed, traded, laterServes⟩

/-! ### The body -/

/-- A frame that stands in a body where one of the body has to is reported. -/
theorem readBody_of_misplaced (goesOn : ∀ frame ∈ body, GoesOn frame)
    (misplaced : last.type ≠ .data) (serves : session.stream.Serves creditOf (body ++ [last]))
    (can : session.stream.CanSend (bodyCredits body)) :
    ∃ later, readBody session = (.error (outOfPlace .data last), later) ∧
      session.stream.Traded (body ++ [last]) (bodyCredits body) later.stream ∧
      later.stream.LastReceived last := by
  obtain ⟨later, read, rest⟩ := readBody_of_serves goesOn serves can
  rw [requireType_of_ne misplaced] at read
  exact ⟨later, read, rest⟩

/-! ### The exchange -/

/-- A session that has been opened stands where the request is due, with the table as it was. -/
theorem standsAt_of_handshake (request : Request) {opened : Session}
    (opens : handshake session = (.ok (), opened)) :
    StandsAt (planOf request session) session.stream
        ((planOf request session).requestFrames, .heading) opened ∧
      opened.table = session.table := by
  have leads := leads_handshake (standing_planOf request session)
  unfold Leads at leads
  rw [opens] at leads
  exact leads

/-- The table is still as it was when the request has been sent. -/
theorem table_of_sent {request : Request} {opened sent : Session}
    (opens : handshake session = (.ok (), opened))
    (sends : sendRequest request opened = (.ok (), sent)) : sent.table = session.table := by
  obtain ⟨stands, table⟩ := standsAt_of_handshake request opens
  have same : sendRequest (planOf request session).request opened = (.ok (), sent) := sends
  have leads := stands.sendRequest
  unfold Leads at leads
  rw [same] at leads
  exact leads.2.trans table

/-- Frames of the beginning of a response are answered with credit for its body. -/
theorem flatMap_creditOf_of_isHeaderBlock {table : DynamicTable} {ends : Bool}
    (heads : IsHeaderBlock table ends block) (goesOn : ∀ frame ∈ body, GoesOn frame) :
    (block ++ body).flatMap creditOf = bodyCredits body := by
  obtain ⟨⟨first, others, _, _, _, rfl, type, _, continuations, _⟩, _⟩ := heads
  rw [List.flatMap_append, List.flatMap_eq_nil_iff.mpr (creditOf_of_headerBlock type continuations),
    List.nil_append,
    flatMap_creditOf goesOn]

/-- Wherever in a response the first frame comes whose type is not the one that has to come there,
the exchange ends with what this frame reports. -/
theorem exchange_of_misplaced {request : Request} {opened sent : Session} {before : List Frame}
    (opens : handshake session = (.ok (), opened))
    (sends : sendRequest request opened = (.ok (), sent))
    (responds : OpensResponse session.table before mandated) (misplaced : last.type ≠ mandated)
    (serves : sent.stream.Serves creditOf (before ++ [last]))
    (can : sent.stream.CanSend (before.flatMap creditOf)) :
    ∃ later, exchange request session = (.error (outOfPlace mandated last), later) ∧
      sent.stream.Traded (before ++ [last]) (before.flatMap creditOf) later.stream ∧
      later.stream.LastReceived last ∧ (mandated ≠ .data → later.table = session.table) := by
  have table := table_of_sent opens sends
  rw [exchange, bind_of_ok opens, bind_of_ok sends]
  cases responds with
  | head opensBlock =>
    obtain ⟨later, read, traded, received, kept⟩ :=
      readHeaders_of_misplaced opensBlock misplaced serves
    rw [opensBlock.flatMap_creditOf]
    exact ⟨later, bind_of_error read, traded, received, fun _ => kept.trans table⟩
  | body heads goesOn =>
    rw [← table] at heads
    rw [List.append_assoc] at serves
    obtain ⟨headers, status, headed, headersRead, parsed, traded, bodyServes⟩ :=
      readHeaders_of_isHeaderBlock heads serves
    rw [flatMap_creditOf_of_isHeaderBlock heads goesOn] at can ⊢
    obtain ⟨later, read, tradedBody, received⟩ :=
      readBody_of_misplaced goesOn misplaced bodyServes (traded.canSend _ can)
    have judged : yieldOf (parseStatus headers) headed = (.ok status, headed) :=
      congrArg (·, headed) parsed
    refine ⟨later, ?_, ?_, received, fun other => absurd rfl other⟩
    · rw [bind_of_ok headersRead]
      dsimp only
      rw [bind_of_ok judged]
      exact bind_of_error read
    · rw [List.append_assoc]
      exact traded.trans tradedBody

/-- Wherever the first frame of a response comes that stands where one of another type has to, it is
reported in the same way: by the step that reads it, which reads the header fields or the body, and
by the whole exchange. It is the last that is read, to its last octet and no further, and nothing is
written afterwards: only credit for frames of the body before it. Before the end of the header block
the table is left as it was. -/
theorem misplaced_frame_is_reported :
    (∀ (session : Session) (before : List Frame) (last : Frame) (mandated : FrameType),
      OpensBlock before mandated → last.type ≠ mandated →
      session.stream.Serves creditOf (before ++ [last]) →
        ∃ later, readHeaders session = (.error (outOfPlace mandated last), later) ∧
          session.stream.Traded (before ++ [last]) [] later.stream ∧
          later.stream.LastReceived last ∧ later.table = session.table) ∧
    (∀ (session : Session) (body : List Frame) (last : Frame), (∀ frame ∈ body, GoesOn frame) →
      last.type ≠ .data → session.stream.Serves creditOf (body ++ [last]) →
      session.stream.CanSend (bodyCredits body) →
        ∃ later, readBody session = (.error (outOfPlace .data last), later) ∧
          session.stream.Traded (body ++ [last]) (bodyCredits body) later.stream ∧
          later.stream.LastReceived last) ∧
    ∀ (request : Request) (session opened sent : Session) (before : List Frame) (last : Frame)
      (mandated : FrameType), handshake session = (.ok (), opened) →
      sendRequest request opened = (.ok (), sent) →
      OpensResponse session.table before mandated → last.type ≠ mandated →
      sent.stream.Serves creditOf (before ++ [last]) →
      sent.stream.CanSend (before.flatMap creditOf) →
        ∃ later, exchange request session = (.error (outOfPlace mandated last), later) ∧
          sent.stream.Traded (before ++ [last]) (before.flatMap creditOf) later.stream ∧
          later.stream.LastReceived last ∧ (mandated ≠ .data → later.table = session.table) :=
  ⟨fun _ _ _ _ opens misplaced serves => readHeaders_of_misplaced opens misplaced serves,
    fun _ _ _ goesOn misplaced serves can => readBody_of_misplaced goesOn misplaced serves can,
    fun _ _ _ _ _ _ _ opens sends responds misplaced serves can =>
      exchange_of_misplaced opens sends responds misplaced serves can⟩

/-- A session on which settings arrive and are acknowledged, and then frames. -/
def respondingSession (frames : List Frame) : Session :=
  new .default (Stream.ofEvents [.arrive (Frame.encodeAll [Frame.settings [], Frame.settingsAck]),
    .arrive (Frame.encodeAll frames)]) .silent

/-- The request is sent on such a session. -/
theorem exists_sent_respondingSession (frames : List Frame) :
    ∃ opened sent, handshake (respondingSession frames) = (.ok (), opened) ∧
      sendRequest rootRequest opened = (.ok (), sent) ∧ sent.stream.Accepts ∧
      sent.stream.events = [.arrive (Frame.encodeAll frames)] := by
  have accepts : (respondingSession frames).stream.Accepts :=
    ⟨fun _ member => (nomatch member), rfl, rfl⟩
  obtain ⟨opened, opens, settled⟩ := handshake_of_agreed accepts
    (by decide : ∀ frame ∈ [Frame.settings []] ++ [Frame.settingsAck], Settles frame) (by decide)
    (by decide) ⟨⟨_, rfl⟩, ⟨_, rfl⟩, trivial⟩
  obtain ⟨⟨_, _, standing, _⟩, _⟩ := standsAt_of_handshake rootRequest opens
  have small : min (Hpack.encode rootRequest.headerList).length
      (max opened.options.payloadLimit 1) < wordLimit24 := by
    rw [standing.options]
    exact Nat.lt_of_le_of_lt (Nat.min_le_right _ _)
      (by decide : max Frame.defaultPayloadLimit 1 < wordLimit24)
  obtain ⟨requestFrames, built⟩ : ∃ requestFrames, blockFrames opened.options.payloadLimit
      (Hpack.encode rootRequest.headerList) = .ok requestFrames := ⟨_, blockFrames_of_lt small⟩
  obtain ⟨sent, wrote, traded, _⟩ :=
    @writeFrames_of_canSend opened requestFrames [] (settled.accepts.canSend _)
  refine ⟨opened, sent, opens, ?_, traded.accepts settled.accepts, ?_⟩
  · rw [sendRequest, built]
    exact wrote
  · rw [traded.events, settled.events]
    rfl

/-- A frame that gives up the stream, or that is too short to say why. -/
def resetFrame (payload : Octets) : Frame := ⟨.rstStream, 0xff, 1, payload⟩

/-- A frame that ends the connection, with the reserved bit before the last stream. -/
def goAwayFrame : Frame := ⟨.goAway, 0, 0, [0x80, 0, 0, 1, 0, 0, 0, 2, 9]⟩

/-- A header block with a status, in a frame that does not end the stream. -/
def statusFrame : Frame := ⟨.headers, Flag.endHeaders, 1, [0x88]⟩

/-- Frames that begin a header block and do not end it. -/
def unendedFrames : List Frame := [⟨.headers, 0, 1, [0x88]⟩, ⟨.continuation, 0, 1, [0x89]⟩]

/-- A frame of the body. -/
def bodyFrame : Frame := ⟨.data, 0, 1, [1, 2, 3]⟩

theorem misplaced_frame_is_reported_respondingSession :
    (∃ later, readHeaders (arriving (Frame.encodeAll (unendedFrames ++ [goAwayFrame]))) =
        (.error (.goAway 1 ⟨2⟩), later) ∧ later.stream.LastReceived goAwayFrame ∧
      later.table = .empty 4096) ∧
    (∃ later, readBody (arriving (Frame.encodeAll [bodyFrame, resetFrame [0, 0, 0]])) =
        (.error (.frame (.range (.outOfRange 0 4 3))), later) ∧
      later.stream.written = Frame.encodeAll [creditFrame 1 3, creditFrame 0 3]) ∧
    (∃ later, exchange rootRequest (respondingSession [resetFrame [0, 0, 0, 8]]) =
        (.error (.streamReset ⟨8⟩), later) ∧ later.table = .empty 4096) ∧
    ∃ later, exchange rootRequest (respondingSession [statusFrame, bodyFrame, pingFrame]) =
        (.error (.unexpectedFrame .data .ping), later) ∧
      later.stream.events = [] ∧ later.stream.LastReceived pingFrame := by
  have accepts (octets : Octets) : (arriving octets).stream.Accepts :=
    ⟨fun _ member => (nomatch member), rfl, rfl⟩
  have heads : IsHeaderBlock (.empty 4096) false [statusFrame] :=
    ⟨⟨statusFrame, [], [0x88], [⟨Ascii.octets ":status", Ascii.octets "200"⟩], 200, rfl, rfl,
      by decide, fun _ member => (nomatch member), by decide +kernel, by decide +kernel,
      [], [], 2, 0, 0, rfl, nofun, rfl⟩, [], statusFrame, rfl, by decide,
      fun _ member => (nomatch member)⟩
  obtain ⟨steps, bodies, exchanges⟩ := misplaced_frame_is_reported
  obtain ⟨first, firstFailed, _, firstReceived, firstTable⟩ :=
    steps (arriving (Frame.encodeAll (unendedFrames ++ [goAwayFrame]))) unendedFrames goAwayFrame
      .continuation
      (.begun rfl rfl (by decide) (List.forall_mem_singleton.mpr ⟨rfl, by decide⟩)) (by decide)
      ⟨⟨_, rfl⟩, ⟨_, rfl⟩, ⟨_, rfl⟩, trivial⟩
  obtain ⟨second, secondFailed, secondTraded, _⟩ :=
    bodies (arriving (Frame.encodeAll [bodyFrame, resetFrame [0, 0, 0]])) [bodyFrame]
      (resetFrame [0, 0, 0]) (by decide) (by decide) ⟨⟨_, rfl⟩, ⟨_, rfl⟩, trivial⟩
      ((accepts _).canSend _)
  obtain ⟨opened, sent, opens, sends, sentAccepts, events⟩ :=
    exists_sent_respondingSession [resetFrame [0, 0, 0, 8]]
  obtain ⟨third, thirdFailed, _, _, thirdTable⟩ := exchanges rootRequest _ opened sent []
    (resetFrame [0, 0, 0, 8]) .headers opens sends (.head .nothing) (by decide)
    (by
      rw [Stream.Serves, events]
      exact ⟨⟨_, rfl⟩, trivial⟩) trivial
  obtain ⟨otherOpened, otherSent, otherOpens, otherSends, otherAccepts, otherEvents⟩ :=
    exists_sent_respondingSession [statusFrame, bodyFrame, pingFrame]
  obtain ⟨fourth, fourthFailed, fourthTraded, fourthReceived, _⟩ := exchanges rootRequest _
    otherOpened otherSent ([statusFrame] ++ [bodyFrame]) pingFrame .data otherOpens otherSends
    (.body heads (by decide)) (by decide)
    (by
      rw [Stream.Serves, otherEvents]
      exact ⟨⟨_, rfl⟩, ⟨_, rfl⟩, ⟨_, rfl⟩, trivial⟩) (otherAccepts.canSend _)
  refine ⟨⟨first, firstFailed, firstReceived, firstTable⟩, ⟨second, secondFailed,
    secondTraded.written⟩, ⟨third, thirdFailed, thirdTable (by decide)⟩, fourth, fourthFailed, ?_,
    fourthReceived⟩
  rw [fourthTraded.events, otherEvents]
  rfl

end WebFetch.Session
