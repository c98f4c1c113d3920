/-
This file says what an exchange comes to, frame by frame, without the stream: in which phase it is
after the frames that were received, and which frames it answers each of them with. A phase in which
the exchange is over is never left, so frames that are received later only add to the answers.
-/

import WebFetch.Proofs.Session.Block
import WebFetch.Session.Exchange

namespace WebFetch.Session

/-! ### Phases -/

/-- What an exchange depends on beside the frames that are received. -/
structure Plan where
  options : SessionOptions
  request : Request
  /-- The table that the header block of the response is decoded with. -/
  table : DynamicTable

/-- How far an exchange is. -/
inductive Phase where
  /-- The settings of both sides do not hold yet. -/
  | settling (agreement : Agreement)
  /-- The request is sent, and no frame of the response is there. -/
  | heading
  /-- The header block of the response has begun. The pieces read are given last first. -/
  | continuing (ends : Bool) (pieces : List Octets)
  /-- The body of the response follows. The pieces read are given last first. -/
  | receiving (status : UInt16) (headers : List Header) (pieces : List Octets)
  /-- The response is whole. -/
  | finished (reply : Reply)
  | failed (error : SessionError)

/-- The phase of an exchange that received nothing. -/
def Phase.start : Phase := .settling ⟨false, false⟩

/-! ### Answers -/

/-- Allows the other side to send more on a stream. -/
def creditFrame (stream : UInt32) (length : Nat) : Frame :=
  ⟨.windowUpdate, 0, stream, Octets.ofNat 4 length⟩

/-- What octets of the body are answered with. -/
def creditFrames (length : Nat) : List Frame :=
  if length = 0 then [] else [creditFrame requestStream length, creditFrame 0 length]

/-- The last frame of an exchange. -/
def closing : Frame :=
  Frame.control .goAway 0
    (Octets.ofNat 4 requestStream.toNat ++ Octets.ofNat 4 ErrorCode.noError.code.toNat)

/-- How a frame is answered while the settings of both sides do not hold, and what holds then. -/
def settleFrame (agreement : Agreement) (frame : Frame) :
    Except SessionError (List Frame × Agreement) :=
  if frame.type ≠ .settings then .ok ([], agreement)
  else if frame.has Flag.ack then .ok ([], { agreement with acknowledged := true })
  else
    match Frame.parseSettings frame.payload with
    | .error error => .error (.frame error)
    | .ok _ => .ok ([Frame.settingsAck], { agreement with announced := true })

/-- What the header fields of the response come to. -/
def replied (ends : Bool) (headers : List Header) : List Frame × Phase :=
  match parseStatus headers with
  | .error error => ([], .failed error)
  | .ok status =>
    if ends then ([closing], .finished ⟨status, headers, []⟩)
    else ([], .receiving status headers [])

namespace Plan

/-- The frames of the request. There are none if its header block does not fit into frames. -/
def requestFrames (plan : Plan) : List Frame :=
  match blockFrames plan.options.payloadLimit (Hpack.encode plan.request.headerList) with
  | .ok frames => frames
  | .error _ => []

/-- The request is sent once the settings of both sides hold. -/
def settled (plan : Plan) (answers : List Frame) (agreement : Agreement) : List Frame × Phase :=
  if agreement.complete then (answers ++ plan.requestFrames, .heading)
  else (answers, .settling agreement)

/-- What a header block comes to that is whole. -/
def headed (plan : Plan) (ends : Bool) (block : Octets) : List Frame × Phase :=
  match (Hpack.decode plan.table block .silent).result with
  | .error error => ([], .failed (.hpack error))
  | .ok headers => replied ends headers

/-- What the pieces of a header block come to. -/
def gathered (plan : Plan) (ends : Bool) (pieces : List Octets) (ended : Bool) :
    List Frame × Phase :=
  if ended then plan.headed ends pieces.reverse.flatten else ([], .continuing ends pieces)

/-- How a frame is answered, and the phase after it. -/
def next (plan : Plan) : Phase → Frame → List Frame × Phase
  | .settling agreement, frame =>
    match settleFrame agreement frame with
    | .error error => ([], .failed error)
    | .ok (answers, agreement) => plan.settled answers agreement
  | .heading, frame =>
    match requireType .headers frame with
    | .error error => ([], .failed error)
    | .ok frame =>
      match fragment frame with
      | .error error => ([], .failed error)
      | .ok piece =>
        plan.gathered (frame.has Flag.endStream) [piece] (frame.has Flag.endHeaders)
  | .continuing ends pieces, frame =>
    match requireType .continuation frame with
    | .error error => ([], .failed error)
    | .ok frame => plan.gathered ends (frame.payload :: pieces) (frame.has Flag.endHeaders)
  | .receiving status headers pieces, frame =>
    match requireType .data frame with
    | .error error => ([], .failed error)
    | .ok frame =>
      if frame.has Flag.padded then ([], .failed .paddedData)
      else if frame.has Flag.endStream then
        ([closing], .finished ⟨status, headers, (frame.payload :: pieces).reverse.flatten⟩)
      else
        (creditFrames frame.payload.length, .receiving status headers (frame.payload :: pieces))
  | .finished reply, _ => ([], .finished reply)
  | .failed error, _ => ([], .failed error)

/-! ### Sequences of frames -/

/-- The answers to frames and the phase after them, from a phase on. -/
def follow (plan : Plan) (phase : Phase) : List Frame → List Frame × Phase
  | [] => ([], phase)
  | frame :: later =>
    ((plan.next phase frame).1 ++ (plan.follow (plan.next phase frame).2 later).1,
      (plan.follow (plan.next phase frame).2 later).2)

def phase (plan : Plan) (frames : List Frame) : Phase := (plan.follow .start frames).2

def answers (plan : Plan) (frames : List Frame) : List Frame := (plan.follow .start frames).1

/-- The octets of an exchange with answers: the preface, the settings, and the answers. -/
def octets (plan : Plan) (answers : List Frame) : Octets :=
  Frame.preface ++ Frame.encodeAll (Frame.settings plan.options.settings :: answers)

/-- The octets of an exchange that received frames. -/
def output (plan : Plan) (frames : List Frame) : Octets := plan.octets (plan.answers frames)

theorem follow_append (plan : Plan) (phase : Phase) (first second : List Frame) :
    plan.follow phase (first ++ second) =
      ((plan.follow phase first).1 ++ (plan.follow (plan.follow phase first).2 second).1,
        (plan.follow (plan.follow phase first).2 second).2) := by
  induction first generalizing phase with
  | nil => rfl
  | cons frame first inductionHypothesis =>
    rw [List.cons_append, follow, inductionHypothesis, follow, List.append_assoc]

/-- One more frame leads to the next phase. -/
theorem phase_concat (plan : Plan) (frames : List Frame) (frame : Frame) :
    plan.phase (frames ++ [frame]) = (plan.next (plan.phase frames) frame).2 := by
  rw [phase, follow_append]
  rfl

theorem answers_concat (plan : Plan) (frames : List Frame) (frame : Frame) :
    plan.answers (frames ++ [frame]) =
      plan.answers frames ++ (plan.next (plan.phase frames) frame).1 := by
  rw [answers, follow_append]
  show _ ++ (_ ++ []) = _
  rw [List.append_nil]
  rfl

theorem octets_append (plan : Plan) (first second : List Frame) :
    plan.octets (first ++ second) = plan.octets first ++ Frame.encodeAll second := by
  rw [octets, ← List.cons_append, Frame.encodeAll_append, ← List.append_assoc]
  rfl

theorem output_concat (plan : Plan) (frames : List Frame) (frame : Frame) :
    plan.output (frames ++ [frame]) =
      plan.output frames ++ Frame.encodeAll (plan.next (plan.phase frames) frame).1 := by
  rw [output, answers_concat, octets_append]
  rfl

/-- More answers only add octets. -/
theorem octets_of_isPrefix (plan : Plan) {first second : List Frame} (part : first <+: second) :
    plan.octets first <+: plan.octets second := by
  obtain ⟨more, rfl⟩ := part
  rw [octets_append]
  exact List.prefix_append _ _

/-- Frames that are received later only add octets. -/
theorem output_of_isPrefix (plan : Plan) {first second : List Frame} (part : first <+: second) :
    plan.output first <+: plan.output second := by
  obtain ⟨later, rfl⟩ := part
  refine plan.octets_of_isPrefix ?_
  rw [answers, answers, follow_append]
  exact List.prefix_append _ _

end Plan

end WebFetch.Session
