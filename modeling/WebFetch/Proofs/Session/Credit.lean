/-
This file is about the credit that reading a body gives back. Each frame of the body but the last is
answered with leave to send as many octets again as it carried, on the stream and on the connection,
and with nothing if it carried none. So the other side may wait for this credit, and what it gets
over the whole body is what it has used. No increment is zero, and none is too large for its frame.
-/

import WebFetch.Proofs.Session.Refusal
import WebFetch.Proofs.Session.Serving

namespace WebFetch.Session

/-! ### The frames of a body -/

/-- Whether a frame carries octets of a body, and the body goes on after it. -/
structure GoesOn (frame : Frame) : Prop where
  type : frame.type = .data
  unpadded : frame.has Flag.padded = false
  unended : frame.has Flag.endStream = false

/-- Whether a frame carries the last octets of a body. -/
structure EndsBody (frame : Frame) : Prop where
  type : frame.type = .data
  unpadded : frame.has Flag.padded = false
  ends : frame.has Flag.endStream = true

instance (frame : Frame) : Decidable (GoesOn frame) :=
  decidable_of_iff (frame.type = .data ∧ frame.has Flag.padded = false ∧
      frame.has Flag.endStream = false)
    ⟨fun ⟨type, unpadded, unended⟩ => ⟨type, unpadded, unended⟩,
      fun goesOn => ⟨goesOn.type, goesOn.unpadded, goesOn.unended⟩⟩

/-- What a frame of a response is answered with. -/
def creditOf (frame : Frame) : List Frame :=
  if GoesOn frame then creditFrames frame.payload.length else []

/-- The frames with which a body is answered. -/
def bodyCredits (body : List Frame) : List Frame :=
  body.flatMap fun frame => creditFrames frame.payload.length

theorem flatMap_creditOf {body : List Frame} (goesOn : ∀ frame ∈ body, GoesOn frame) :
    body.flatMap creditOf = bodyCredits body := by
  rw [bodyCredits, List.flatMap_def, List.flatMap_def]
  exact congrArg List.flatten (List.map_congr_left fun frame member =>
    if_pos (goesOn frame member))

/-! ### Giving credit -/

variable {session : Session} {frame last : Frame} {body more : List Frame} {pieces : List Octets}

/-- A frame after which the body goes on is read and answered with credit. -/
theorem readBodyFrom_of_goesOn {others : List Frame} (goesOn : GoesOn frame)
    (serves : session.stream.Serves creditOf (frame :: more))
    (can : session.stream.CanSend (creditOf frame ++ others)) :
    ∃ later, readBodyFrom pieces session = readBodyFrom (frame.payload :: pieces) later ∧
      Stream.Traded [frame] (creditOf frame) session.stream later.stream := by
  obtain ⟨middle, read, received, _⟩ := await_of_serves serves .data
  rw [requireType, if_pos goesOn.type] at read
  have can := received.canSend _ can
  rw [creditOf, if_pos goesOn] at can ⊢
  obtain ⟨later, allowed, given, _⟩ := writeFrames_of_canSend can
  rw [← allowMore_eq (serves.length_payload_lt frame List.mem_cons_self)] at allowed
  refine ⟨later, ?_, received.trans given⟩
  rw [readBodyFrom_eq, bind_of_ok read, takeData, if_neg (Bool.eq_false_iff.mp goesOn.unpadded),
    if_neg (Bool.eq_false_iff.mp goesOn.unended), bind_of_ok allowed]

/-- The frames of a body are read and answered one after the other. -/
theorem readBodyFrom_of_forall_goesOn {others : List Frame} (goesOn : ∀ frame ∈ body, GoesOn frame)
    (serves : session.stream.Serves creditOf (body ++ more))
    (can : session.stream.CanSend (body.flatMap creditOf ++ others)) :
    ∃ later, readBodyFrom pieces session =
        readBodyFrom ((body.map Frame.payload).reverse ++ pieces) later ∧
      Stream.Traded body (body.flatMap creditOf) session.stream later.stream := by
  induction body generalizing session pieces with
  | nil => exact ⟨session, rfl, Stream.traded_nil _⟩
  | cons frame body inductionHypothesis =>
    rw [List.flatMap_cons, List.append_assoc] at can
    obtain ⟨middle, first, traded⟩ :=
      @readBodyFrom_of_goesOn _ _ _ pieces _ (goesOn frame List.mem_cons_self) serves can
    obtain ⟨later, rest, tradedLater⟩ := @inductionHypothesis middle (frame.payload :: pieces)
      (fun other member => goesOn other (List.mem_cons_of_mem _ member)) (serves.tail traded)
      (traded.canSend _ can)
    refine ⟨later, ?_, traded.trans tradedLater⟩
    rw [first, rest, List.map_cons, List.reverse_cons, List.append_assoc]
    rfl

/-! ### How much credit is given -/

/-- How much credit a frame gives on a stream, where the connection counts as the stream zero. -/
def grant (stream : UInt32) (frame : Frame) : Nat :=
  if frame.type = .windowUpdate ∧ frame.stream = stream then
    match Frame.parseWindowUpdate frame.payload with
    | .ok increment => increment.toNat
    | .error _ => 0
  else 0

/-- How much credit frames give on a stream. -/
def granted (stream : UInt32) (frames : List Frame) : Nat := (frames.map (grant stream)).sum

theorem granted_append (stream : UInt32) (first second : List Frame) :
    granted stream (first ++ second) = granted stream first + granted stream second := by
  rw [granted, List.map_append, List.sum_append]
  rfl

theorem parseWindowUpdate_creditFrame {length : Nat} (small : length < wordLimit24)
    (stream : UInt32) :
    Frame.parseWindowUpdate (creditFrame stream length).payload = .ok (UInt32.ofNat length) :=
  Frame.parseWindowUpdate_ofNat (Nat.lt_trans small (by decide))

theorem toNat_increment {length : Nat} (small : length < wordLimit24) :
    (UInt32.ofNat length).toNat = length :=
  UInt32.toNat_ofNat_of_lt' (Nat.lt_trans small (by decide))

/-- Credit for the octets of a frame is as much as there are of them, on the stream of the request
and on the connection. -/
theorem granted_creditFrames {length : Nat} (small : length < wordLimit24) {stream : UInt32}
    (known : stream = requestStream ∨ stream = 0) :
    granted stream (creditFrames length) = length := by
  have apart : requestStream ≠ 0 := by decide
  unfold creditFrames
  by_cases nothing : length = 0
  · rw [if_pos nothing, nothing]
    rfl
  · have own (other : UInt32) : grant stream (creditFrame other length) =
        if other = stream then length else 0 := by
      by_cases same : other = stream
      · rw [grant, if_pos ⟨rfl, same⟩, parseWindowUpdate_creditFrame small, if_pos same]
        exact toNat_increment small
      · rw [grant, if_neg fun both => same both.2, if_neg same]
    rw [if_neg nothing, granted, List.map_cons, List.map_singleton, List.sum_cons,
      List.sum_singleton, own, own]
    rcases known with rfl | rfl
    · rw [if_pos rfl, if_neg apart.symm, Nat.add_zero]
    · rw [if_neg apart, if_pos rfl, Nat.zero_add]

theorem granted_bodyCredits (small : ∀ frame ∈ body, frame.payload.length < wordLimit24)
    {stream : UInt32} (known : stream = requestStream ∨ stream = 0) :
    granted stream (bodyCredits body) = (body.map fun frame => frame.payload.length).sum := by
  induction body with
  | nil => rfl
  | cons frame body inductionHypothesis =>
    rw [bodyCredits, List.flatMap_cons, granted_append,
      granted_creditFrames (small frame List.mem_cons_self) known, List.map_cons, List.sum_cons]
    congr 1
    exact inductionHypothesis fun other member => small other (List.mem_cons_of_mem _ member)

/-- No frame of the credit for octets says that none may be sent. -/
theorem increment_ne_zero_of_mem_creditFrames {length : Nat} (small : length < wordLimit24)
    (member : frame ∈ creditFrames length) :
    ∃ increment, Frame.parseWindowUpdate frame.payload = .ok increment ∧ increment ≠ 0 := by
  unfold creditFrames at member
  split at member
  · cases member
  · rename_i some
    refine ⟨UInt32.ofNat length, ?_, fun zero => some ?_⟩
    · rw [List.mem_cons, List.mem_singleton] at member
      rcases member with rfl | rfl
      · exact parseWindowUpdate_creditFrame small requestStream
      · exact parseWindowUpdate_creditFrame small 0
    · rw [← toNat_increment small, zero]
      rfl

/-! ### The whole body -/

/-- The frames after which a body goes on are read and answered, and the next frame is judged. -/
theorem readBody_of_serves (goesOn : ∀ frame ∈ body, GoesOn frame)
    (serves : session.stream.Serves creditOf (body ++ [last]))
    (can : session.stream.CanSend (bodyCredits body)) :
    ∃ later, readBody session =
        (yieldOf (requireType .data last) >>= takeData (body.map Frame.payload).reverse) later ∧
      session.stream.Traded (body ++ [last]) (bodyCredits body) later.stream ∧
      later.stream.LastReceived last := by
  rw [← flatMap_creditOf goesOn] at can ⊢
  rw [← List.append_nil (body.flatMap creditOf)] at can
  obtain ⟨middle, run, traded⟩ := readBodyFrom_of_forall_goesOn goesOn serves can
  obtain ⟨later, read, received, arrived, _⟩ := await_of_serves (serves.after traded) .data
  have whole := traded.trans received
  rw [List.append_nil] at run whole
  refine ⟨later, ?_, whole, arrived⟩
  rw [readBody, run, readBodyFrom_eq]
  simp only [bind, read, yieldOf]

/-- A body is read up to its last frame, and credit is given for the frames before it. -/
theorem readBody_of_endsBody (accepts : session.stream.Accepts)
    (goesOn : ∀ frame ∈ body, GoesOn frame) (endsBody : EndsBody last)
    (serves : session.stream.Serves creditOf (body ++ [last])) :
    ∃ later, readBody session = (.ok ((body ++ [last]).flatMap Frame.payload), later) ∧
      session.stream.Traded (body ++ [last]) (bodyCredits body) later.stream := by
  obtain ⟨later, read, traded, _⟩ := readBody_of_serves goesOn serves (accepts.canSend _)
  refine ⟨later, ?_, traded⟩
  have whole : (last.payload :: (body.map Frame.payload).reverse).reverse.flatten =
      (body ++ [last]).flatMap Frame.payload := by
    rw [List.reverse_cons, List.reverse_reverse, List.flatMap_def, List.map_append,
      List.map_singleton]
  rw [read, requireType, if_pos endsBody.type, ← whole]
  show takeData _ last later = _
  rw [takeData, if_neg (Bool.eq_false_iff.mp endsBody.unpadded), if_pos endsBody.ends]
  rfl

/-- A frame with padding ends the exchange, after credit for the frames before it. -/
theorem readBody_of_padded (accepts : session.stream.Accepts)
    (goesOn : ∀ frame ∈ body, GoesOn frame) (type : last.type = .data)
    (padded : last.has Flag.padded = true)
    (serves : session.stream.Serves creditOf (body ++ [last])) :
    ∃ later, readBody session = (.error .paddedData, later) ∧
      session.stream.Traded (body ++ [last]) (bodyCredits body) later.stream := by
  obtain ⟨later, read, traded, _⟩ := readBody_of_serves goesOn serves (accepts.canSend _)
  refine ⟨later, ?_, traded⟩
  rw [read, requireType, if_pos type]
  show takeData _ last later = _
  rw [takeData, if_pos padded]
  rfl

/-- No error of a frame is reported for a body except that a payload is too short. -/
theorem exists_range_of_readBody {error : FrameError}
    (failed : (readBody session).1 = .error (.frame error)) : ∃ range, error = .range range := by
  generalize refusal : SessionError.frame error = reported at failed
  cases bodyFailure_of_readBodyFrom (Prod.ext failed rfl) with
  | stream error => cases refusal
  | padded => cases refusal
  | misplaced frame => exact exists_range_of_outOfPlace refusal.symm

/-- On a stream that accepts everything, a body in frames of which only the last ends the stream is
read to this frame and no further, and comes to the payloads of its frames. Each frame but the last
is answered in its turn with credit for as many octets as it carried, on the stream of the request
and then on the connection, or with nothing if it carried none, and nothing else is written. So the
credit on each comes to the octets before the last frame, and no increment is zero. A frame with
padding ends the exchange after credit for the frames before it. Whatever is read, no increment and
no length is found too large. -/
theorem readBody_returns_credit (session : Session) :
    (∀ (body : List Frame) (last : Frame), session.stream.Accepts →
      (∀ frame ∈ body, GoesOn frame) → EndsBody last →
      session.stream.Serves creditOf (body ++ [last]) →
        (∃ later, readBody session = (.ok ((body ++ [last]).flatMap Frame.payload), later) ∧
          session.stream.Traded (body ++ [last]) (bodyCredits body) later.stream) ∧
        (∀ stream, stream = requestStream ∨ stream = 0 →
          granted stream (bodyCredits body) =
            (body.map fun frame => frame.payload.length).sum) ∧
        ∀ credit ∈ bodyCredits body, ∃ increment,
          Frame.parseWindowUpdate credit.payload = .ok increment ∧ increment ≠ 0) ∧
    (∀ (body : List Frame) (last : Frame), session.stream.Accepts →
      (∀ frame ∈ body, GoesOn frame) → last.type = .data → last.has Flag.padded = true →
      session.stream.Serves creditOf (body ++ [last]) →
        ∃ later, readBody session = (.error .paddedData, later) ∧
          session.stream.Traded (body ++ [last]) (bodyCredits body) later.stream) ∧
    (∀ increment, (readBody session).1 ≠ .error (.frame (.incrementTooLarge increment))) ∧
    ∀ length, (readBody session).1 ≠ .error (.frame (.lengthTooLarge length)) := by
  refine ⟨fun body last accepts goesOn endsBody serves => ?_,
    fun _ _ accepts goesOn type padded serves =>
      readBody_of_padded accepts goesOn type padded serves, fun _ failed => ?_, fun _ failed => ?_⟩
  · have small (frame : Frame) (member : frame ∈ body) : frame.payload.length < wordLimit24 :=
      serves.length_payload_lt frame (List.mem_append_left _ member)
    refine ⟨readBody_of_endsBody accepts goesOn endsBody serves,
      fun _ known => granted_bodyCredits small known, fun credit member => ?_⟩
    obtain ⟨frame, frameMember, member⟩ := List.mem_flatMap.mp member
    exact increment_ne_zero_of_mem_creditFrames (small frame frameMember) member
  · obtain ⟨_, same⟩ := exists_range_of_readBody failed
    cases same
  · obtain ⟨_, same⟩ := exists_range_of_readBody failed
    cases same

/-- Frames of a body, the second of them without octets. -/
def meteredBody : List Frame := [⟨.data, 0, 1, [1, 2]⟩, ⟨.data, 0, 1, []⟩, ⟨.data, 0, 1, [3]⟩]

/-- A frame that ends the body. -/
def lastFrame : Frame := ⟨.data, Flag.endStream, 1, [4, 5]⟩

/-- A frame with an octet of padding. -/
def paddedDataFrame : Frame := ⟨.data, Flag.padded, 1, [1, 6, 0]⟩

/-- A session on which the frames of the body arrive and then one more. The other side waits twice
for the credit that two frames give. -/
def meteredSession (last : Frame) : Session :=
  new .default (Stream.ofEvents [.arrive (Frame.encode ⟨.data, 0, 1, [1, 2]⟩),
    .wait fun written => decide (26 ≤ written.length),
    .arrive (Frame.encodeAll [⟨.data, 0, 1, []⟩, ⟨.data, 0, 1, [3]⟩]),
    .wait fun written => decide (52 ≤ written.length), .arrive last.encode]) .silent

theorem readBody_returns_credit_meteredSession :
    (∃ later, readBody (meteredSession lastFrame) = (.ok [1, 2, 3, 4, 5], later) ∧
      later.stream.events = [] ∧
      later.stream.written = Frame.encodeAll
        [creditFrame 1 2, creditFrame 0 2, creditFrame 1 1, creditFrame 0 1]) ∧
    granted 1 (bodyCredits meteredBody) = 3 ∧ granted 0 (bodyCredits meteredBody) = 3 ∧
    ∃ later, readBody (meteredSession paddedDataFrame) = (.error .paddedData, later) ∧
      later.stream.events = [] ∧
      later.stream.written = Frame.encodeAll
        [creditFrame 1 2, creditFrame 0 2, creditFrame 1 1, creditFrame 0 1] := by
  have accepts (last : Frame) : (meteredSession last).stream.Accepts :=
    ⟨fun _ member => (nomatch member), rfl, rfl⟩
  have goesOn : ∀ frame ∈ meteredBody, GoesOn frame := by decide
  have ends : EndsBody lastFrame := ⟨rfl, by decide, by decide⟩
  have lastServed : (meteredSession lastFrame).stream.Serves creditOf
      (meteredBody ++ [lastFrame]) :=
    ⟨⟨_, rfl⟩, ⟨_, rfl⟩, ⟨_, rfl⟩, ⟨_, rfl⟩, trivial⟩
  have paddedServed : (meteredSession paddedDataFrame).stream.Serves creditOf
      (meteredBody ++ [paddedDataFrame]) :=
    ⟨⟨_, rfl⟩, ⟨_, rfl⟩, ⟨_, rfl⟩, ⟨_, rfl⟩, trivial⟩
  obtain ⟨⟨later, read, traded⟩, totals, _⟩ :=
    (readBody_returns_credit (meteredSession lastFrame)).1 meteredBody lastFrame (accepts _) goesOn
      ends lastServed
  obtain ⟨last, refused, tradedToo⟩ :=
    (readBody_returns_credit (meteredSession paddedDataFrame)).2.1 meteredBody paddedDataFrame
      (accepts _) goesOn rfl (by decide) paddedServed
  exact ⟨⟨later, read, traded.events, traded.written⟩, totals 1 (Or.inl rfl), totals 0 (Or.inr rfl),
    last, refused, tradedToo.events, tradedToo.written⟩

end WebFetch.Session
