/-
This file says what a reply is made of. Once the settings of both sides hold, frames are taken as
they come: one that begins a header block, those that continue it, and those of a body until one
ends the stream. The fields of the reply are what the pieces of the block decode to, and its body is
what the others carry. The streams of these frames are not looked at.
-/

import WebFetch.Proofs.Session.Reassembly
import WebFetch.Proofs.Session.Safety

namespace WebFetch.Session

open StreamCall

/-! ### The frames of a response -/

/-- Whether frames go on with a body of which the stream has ended before them or not, and only the
last ends it. -/
def Supplies : (ended : Bool) → List Frame → Prop
  | ended, [] => ended = true
  | ended, frame :: later =>
    ended = false ∧ frame.type = .data ∧ frame.has Flag.padded = false ∧
      Supplies (frame.has Flag.endStream) later

/-- Whether frames go on with a header block of which octets were read before, and with a body, and
make up a reply. -/
structure Completes (table : DynamicTable) (ends ended : Bool) (read : Octets)
    (others body : List Frame) (reply : Reply) : Prop where
  continues : Continues ended others
  supplies : Supplies ends body
  headers : (Hpack.decode table (read ++ others.flatMap Frame.payload) .silent).result =
    .ok reply.headers
  status : TellsStatus reply.headers reply.status
  body : reply.body = body.flatMap Frame.payload

/-- Whether a frame that begins a header block and the frames after it make up a reply. -/
structure MakesUp (table : DynamicTable) (first : Frame) (others body : List Frame)
    (reply : Reply) : Prop where
  type : first.type = .headers
  carries : ∃ piece, fragment first = .ok piece ∧
    Completes table (first.has Flag.endStream) (first.has Flag.endHeaders) piece others body reply

/-- Whether these of some frames make up a reply: those that an exchange takes one after the other
once the settings of both sides hold. -/
def Plan.Takes (plan : Plan) (frames taken : List Frame) (reply : Reply) : Prop :=
  ∃ opening later first others body, frames = opening ++ (taken ++ later) ∧
    plan.phase opening = .heading ∧ taken = first :: (others ++ body) ∧
    MakesUp plan.table first others body reply

namespace Plan

variable (plan : Plan)

theorem follow_cons (phase : Phase) (frame : Frame) (later : List Frame) :
    (plan.follow phase (frame :: later)).2 = (plan.follow (plan.next phase frame).2 later).2 :=
  rfl

/-- An exchange that was given up stays so. -/
theorem follow_failed (error : SessionError) (frames : List Frame) :
    (plan.follow (.failed error) frames).2 = .failed error := by
  induction frames with
  | nil => rfl
  | cons frame later inductionHypothesis =>
    rw [follow_cons]
    exact inductionHypothesis

/-- A reply stays as it is. -/
theorem follow_finished (reply : Reply) (frames : List Frame) :
    (plan.follow (.finished reply) frames).2 = .finished reply := by
  induction frames with
  | nil => rfl
  | cons frame later inductionHypothesis =>
    rw [follow_cons]
    exact inductionHypothesis

theorem not_finished_of_failed {error : SessionError} {frames : List Frame} {reply : Reply}
    (finished : (plan.follow (.failed error) frames).2 = .finished reply) : False := by
  rw [follow_failed] at finished
  cases finished

/-- A frame that is not given up for its type is of the type that is required. -/
theorem required_of_finished {phase : Phase} {expected : FrameType} {frame : Frame}
    {later : List Frame} {reply : Reply}
    (refuses : ∀ error, requireType expected frame = .error error →
      (plan.next phase frame).2 = .failed error)
    (finished : (plan.follow phase (frame :: later)).2 = .finished reply) :
    requireType expected frame = .ok frame ∧ frame.type = expected := by
  cases required : requireType expected frame with
  | error error =>
    rw [follow_cons, refuses error required] at finished
    exact (plan.not_finished_of_failed finished).elim
  | ok same =>
    obtain ⟨rfl, type⟩ := type_of_requireType required
    exact ⟨rfl, type⟩

/-- A body that comes to its end is made of the pieces read before and of frames. -/
theorem exists_supplies {status : UInt16} {headers : List Header} {pieces : List Octets}
    {frames : List Frame} {reply : Reply}
    (finished : (plan.follow (.receiving status headers pieces) frames).2 = .finished reply) :
    ∃ body later, frames = body ++ later ∧ Supplies false body ∧
      reply = ⟨status, headers, pieces.reverse.flatten ++ body.flatMap Frame.payload⟩ := by
  induction frames generalizing pieces with
  | nil => cases finished
  | cons frame frames inductionHypothesis =>
    obtain ⟨required, type⟩ :=
      plan.required_of_finished (fun error refused => by rw [next, refused]) finished
    rw [follow_cons, next, required] at finished
    dsimp only at finished
    by_cases padded : frame.has Flag.padded = true
    · rw [if_pos padded] at finished
      exact (plan.not_finished_of_failed finished).elim
    · rw [if_neg padded] at finished
      have plain : frame.has Flag.padded = false := Bool.eq_false_iff.mpr padded
      by_cases ends : frame.has Flag.endStream = true
      · rw [if_pos ends, follow_finished] at finished
        refine ⟨[frame], frames, rfl, ⟨rfl, type, plain, ends⟩, ?_⟩
        rw [← Phase.finished.inj finished]
        simp
      · rw [if_neg ends] at finished
        obtain ⟨body, later, rfl, supplies, made⟩ := inductionHypothesis finished
        rw [← Bool.eq_false_iff.mpr ends] at supplies
        refine ⟨frame :: body, later, rfl, ⟨rfl, type, plain, supplies⟩, ?_⟩
        rw [made]
        simp

/-- What a whole header block and the frames after it come to. -/
theorem exists_of_headed {ends : Bool} {block : Octets} {frames : List Frame} {reply : Reply}
    (finished : (plan.follow (plan.headed ends block).2 frames).2 = .finished reply) :
    ∃ body later, frames = body ++ later ∧
      Completes plan.table ends true block [] body reply := by
  unfold headed at finished
  cases decoded : (Hpack.decode plan.table block .silent).result with
  | error error =>
    rw [decoded] at finished
    exact (plan.not_finished_of_failed finished).elim
  | ok headers =>
    rw [decoded] at finished
    rw [← List.append_nil block] at decoded
    simp only [replied] at finished
    cases parsed : parseStatus headers with
    | error error =>
      rw [parsed] at finished
      exact (plan.not_finished_of_failed finished).elim
    | ok status =>
      rw [parsed] at finished
      cases ends with
      | true =>
        have made : Phase.finished ⟨status, headers, []⟩ = .finished reply :=
          (plan.follow_finished _ frames).symm.trans finished
        cases made
        exact ⟨[], frames, rfl, rfl, rfl, decoded, parseStatus_eq_ok_iff.mp parsed, rfl⟩
      | false =>
        obtain ⟨body, later, rfl, supplies, rfl⟩ := plan.exists_supplies finished
        exact ⟨body, later, rfl, rfl, supplies, decoded, parseStatus_eq_ok_iff.mp parsed, rfl⟩

/-- What the pieces of a header block and the frames after them come to. -/
theorem exists_of_gathered {ends ended : Bool} {pieces : List Octets} {frames : List Frame}
    {reply : Reply}
    (finished : (plan.follow (plan.gathered ends pieces ended).2 frames).2 = .finished reply) :
    ∃ others body later, frames = others ++ (body ++ later) ∧
      Completes plan.table ends ended pieces.reverse.flatten others body reply := by
  induction frames generalizing pieces ended with
  | nil =>
    cases ended with
    | true => exact ⟨[], plan.exists_of_headed finished⟩
    | false => cases finished
  | cons frame frames inductionHypothesis =>
    cases ended with
    | true => exact ⟨[], plan.exists_of_headed finished⟩
    | false =>
      rw [gathered, if_neg Bool.false_ne_true] at finished
      obtain ⟨required, type⟩ :=
        plan.required_of_finished (fun error refused => by rw [next, refused]) finished
      rw [follow_cons, next, required] at finished
      obtain ⟨others, body, later, rfl, completes⟩ := inductionHypothesis finished
      have headers := completes.headers
      rw [List.reverse_cons, List.flatten_append, List.flatten_singleton, List.append_assoc]
        at headers
      exact ⟨frame :: others, body, later, rfl, ⟨rfl, type, completes.continues⟩,
        completes.supplies, headers, completes.status, completes.body⟩

/-- What frames come to after the settings of both sides. -/
theorem exists_of_heading {frames : List Frame} {reply : Reply}
    (finished : (plan.follow .heading frames).2 = .finished reply) :
    ∃ first others body later, frames = first :: (others ++ (body ++ later)) ∧
      MakesUp plan.table first others body reply := by
  cases frames with
  | nil => cases finished
  | cons frame frames =>
    obtain ⟨required, type⟩ :=
      plan.required_of_finished (fun error refused => by rw [next, refused]) finished
    rw [follow_cons, next, required] at finished
    dsimp only at finished
    cases carried : fragment frame with
    | error error =>
      rw [carried] at finished
      exact (plan.not_finished_of_failed finished).elim
    | ok piece =>
      rw [carried] at finished
      obtain ⟨others, body, later, rfl, completes⟩ := plan.exists_of_gathered finished
      rw [List.reverse_singleton, List.flatten_singleton] at completes
      exact ⟨frame, others, body, later, rfl, type, piece, carried, completes⟩

/-- A reply needs that the settings of both sides hold. -/
theorem exists_heading {agreement : Agreement} {frames : List Frame} {reply : Reply}
    (finished : (plan.follow (.settling agreement) frames).2 = .finished reply) :
    ∃ opening later, frames = opening ++ later ∧
      (plan.follow (.settling agreement) opening).2 = .heading ∧
      (plan.follow .heading later).2 = .finished reply := by
  induction frames generalizing agreement with
  | nil => cases finished
  | cons frame frames inductionHypothesis =>
    rw [follow_cons, next] at finished
    cases settled : settleFrame agreement frame with
    | error error =>
      rw [settled] at finished
      exact (plan.not_finished_of_failed finished).elim
    | ok taken =>
      obtain ⟨answers, settledAgreement⟩ := taken
      rw [settled] at finished
      dsimp only at finished
      have onward (later : List Frame) :
          (plan.follow (.settling agreement) (frame :: later)).2 =
            (plan.follow (plan.settled answers settledAgreement).2 later).2 := by
        rw [follow_cons, next, settled]
      unfold Plan.settled at finished onward
      by_cases complete : settledAgreement.complete = true
      · rw [if_pos complete] at finished onward
        exact ⟨[frame], frames, rfl, onward [], finished⟩
      · rw [if_neg complete] at finished onward
        obtain ⟨opening, later, rfl, opened, rest⟩ := inductionHypothesis finished
        exact ⟨frame :: opening, later, rfl, (onward opening).trans opened, rest⟩

/-- A reply is made up by the frames that were taken for it. -/
theorem exists_takes {frames : List Frame} {reply : Reply}
    (finished : plan.phase frames = .finished reply) :
    ∃ taken, plan.Takes frames taken reply := by
  obtain ⟨opening, later, rfl, opened, rest⟩ := plan.exists_heading finished
  obtain ⟨first, others, body, unread, rfl, makesUp⟩ := plan.exists_of_heading rest
  refine ⟨first :: (others ++ body), opening, unread, first, others, body, ?_, opened, rfl, makesUp⟩
  rw [List.cons_append, List.append_assoc]

end Plan

/-! ### The streams of frames -/

/-- A frame without its stream. -/
def unnumbered (frame : Frame) : Frame := { frame with stream := 0 }

theorem requireType_unnumbered (expected : FrameType) (frame : Frame) :
    requireType expected (unnumbered frame) = (requireType expected frame).map unnumbered := by
  obtain ⟨type, flags, stream, payload⟩ := frame
  show requireType expected ⟨type, flags, 0, payload⟩ = _
  by_cases same : type = expected
  · simp only [requireType, if_pos same]
    rfl
  · simp only [requireType, if_neg same]
    cases type with
    | rstStream => cases Frame.parseRstStream payload <;> rfl
    | goAway => cases Frame.parseGoAway payload <;> rfl
    | _ => rfl

/-- The stream of a frame makes no difference to what it is answered with and what it leads to. -/
theorem Plan.next_unnumbered (plan : Plan) (phase : Phase) (frame : Frame) :
    plan.next phase (unnumbered frame) = plan.next phase frame := by
  cases phase with
  | settling agreement => rfl
  | heading =>
    rw [next, next, requireType_unnumbered]
    cases requireType .headers frame <;> rfl
  | continuing ends pieces =>
    rw [next, next, requireType_unnumbered]
    cases requireType .continuation frame <;> rfl
  | receiving status headers pieces =>
    rw [next, next, requireType_unnumbered]
    cases requireType .data frame <;> rfl
  | finished reply => rfl
  | failed error => rfl

theorem Plan.follow_unnumbered (plan : Plan) (phase : Phase) (frames : List Frame) :
    plan.follow phase (frames.map unnumbered) = plan.follow phase frames := by
  induction frames generalizing phase with
  | nil => rfl
  | cons frame frames inductionHypothesis =>
    rw [List.map_cons, follow, follow, next_unnumbered, inductionHypothesis]

/-- Frames that differ in their streams only lead to the same phase and the same octets. -/
theorem Plan.alike_of_unnumbered (plan : Plan) {frames others : List Frame}
    (same : others.map unnumbered = frames.map unnumbered) :
    plan.phase others = plan.phase frames ∧ plan.output others = plan.output frames := by
  have followed : plan.follow .start others = plan.follow .start frames := by
    rw [← plan.follow_unnumbered .start others, same, plan.follow_unnumbered]
  rw [phase, phase, output, output, answers, answers, followed]
  exact ⟨rfl, rfl⟩

/-- The calls between two moments of a stream are known from these. -/
theorem eq_of_after {start stream : Stream} {made others : List StreamCall}
    (first : start.After made stream) (second : start.After others stream) : made = others :=
  List.append_cancel_left (first.calls.symm.trans second.calls)

/-- What is known of an exchange that comes to a reply. -/
theorem exists_finished {request : Request} {session later : Session} {reply : Reply}
    (replied : exchange request session = (.ok reply, later)) :
    ∃ made, session.stream.After made later.stream ∧
      (planOf request session).phase (framesOf made) = .finished reply ∧
      allSent made = (planOf request session).output (framesOf made) := by
  obtain ⟨made, after, _, ending⟩ := exchange_follows request session
  rw [replied] at after ending
  obtain ⟨_, finished, sent, _⟩ := ending
  exact ⟨made, after, finished, sent⟩

/-- A reply is made up by frames that were taken one after the other once the settings of both
sides held, whatever their streams: another exchange of the same request that comes to a reply after
frames that differ in nothing else comes to the same reply and sends the same. -/
theorem reply_of_taken (request : Request) {session later : Session} {reply : Reply}
    (replied : exchange request session = (.ok reply, later)) :
    ∃ made taken, session.stream.After made later.stream ∧
      (planOf request session).Takes (framesOf made) taken reply ∧
      ∀ (other last : Session) (otherReply : Reply) (otherMade : List StreamCall),
        exchange request other = (.ok otherReply, last) →
        other.stream.After otherMade last.stream →
        planOf request other = planOf request session →
        (framesOf otherMade).map unnumbered = (framesOf made).map unnumbered →
          otherReply = reply ∧ allSent otherMade = allSent made := by
  obtain ⟨made, after, finished, sent⟩ := exists_finished replied
  obtain ⟨taken, takes⟩ := (planOf request session).exists_takes finished
  refine ⟨made, taken, after, takes, ?_⟩
  intro other last otherReply otherMade otherReplied otherAfter samePlan sameFrames
  obtain ⟨calls, callsAfter, otherFinished, otherSent⟩ := exists_finished otherReplied
  obtain rfl := eq_of_after callsAfter otherAfter
  obtain ⟨samePhase, sameOutput⟩ := (planOf request session).alike_of_unnumbered sameFrames
  rw [samePlan] at otherFinished otherSent
  exact ⟨Phase.finished.inj (otherFinished.symm.trans (samePhase.trans finished)),
    otherSent.trans (sameOutput.trans sent.symm)⟩

/-- The frames of a server that sends a header block on the stream of the request, and a body on
some stream. -/
def answerFrames (stream : UInt32) : List Frame :=
  [Frame.settings [], Frame.settingsAck, ⟨.headers, 0x04, 1, [0x88]⟩,
    ⟨.data, 0x01, stream, Ascii.octets "ok"⟩]

/-- A session on which these frames arrive. -/
def answeredOn (stream : UInt32) : Session := arriving (Frame.encodeAll (answerFrames stream))

/-- What they come to. -/
def answerReply : Reply :=
  ⟨200, [⟨Ascii.octets ":status", Ascii.octets "200"⟩], Ascii.octets "ok"⟩

theorem exchange_answeredOn {stream : UInt32} (known : stream = 1 ∨ stream = 3) :
    ∃ later, exchange rootRequest (answeredOn stream) = (.ok answerReply, later) ∧
      ∀ made, (answeredOn stream).stream.After made later.stream →
        framesOf made = answerFrames stream := by
  have replied :
      (exchange rootRequest (answeredOn stream)).1.toOption = some answerReply := by
    rcases known with rfl | rfl <;> decide +kernel
  have received :
      framesOf (exchange rootRequest (answeredOn stream)).2.stream.calls =
        answerFrames stream := by
    rcases known with rfl | rfl <;> decide +kernel
  cases ran : exchange rootRequest (answeredOn stream) with
  | mk result later =>
    rw [ran] at replied received
    cases result with
    | error error => cases replied
    | ok reply =>
      refine ⟨later, by rw [Option.some.inj replied], fun made after => ?_⟩
      have all : later.stream.calls = made := after.calls
      rw [← all]
      exact received

theorem reply_of_taken_answeredOn :
    ∃ later last made otherMade taken,
      exchange rootRequest (answeredOn 3) = (.ok answerReply, later) ∧
      exchange rootRequest (answeredOn 1) = (.ok answerReply, last) ∧
      (planOf rootRequest (answeredOn 3)).Takes (framesOf made) taken answerReply ∧
      (framesOf made).map Frame.stream = [0, 0, 1, 3] ∧
      (framesOf otherMade).map Frame.stream = [0, 0, 1, 1] ∧
      allSent otherMade = allSent made := by
  obtain ⟨later, replied, received⟩ := exchange_answeredOn (.inr rfl)
  obtain ⟨last, otherReplied, otherReceived⟩ := exchange_answeredOn (.inl rfl)
  obtain ⟨otherMade, otherAfter, _⟩ := exists_finished otherReplied
  obtain ⟨made, taken, after, takes, alike⟩ := reply_of_taken rootRequest replied
  have frames := received made after
  have otherFrames := otherReceived otherMade otherAfter
  obtain ⟨_, sent⟩ := alike (answeredOn 1) last answerReply otherMade otherReplied otherAfter rfl
    (by rw [frames, otherFrames]; decide)
  refine ⟨later, last, made, otherMade, taken, replied, otherReplied, takes, ?_, ?_, sent⟩
  · rw [frames]
    rfl
  · rw [otherFrames]
    rfl

/-- A frame of another stream can be taken for the reply. -/
theorem not_only_requestStream :
    ¬ ∀ (request : Request) (session later : Session) (reply : Reply) (made : List StreamCall)
      (taken : List Frame), exchange request session = (.ok reply, later) →
        session.stream.After made later.stream →
        (planOf request session).Takes (framesOf made) taken reply →
        ∀ frame ∈ taken, frame.stream = requestStream := by
  intro only
  obtain ⟨later, replied, received⟩ := exchange_answeredOn (.inr rfl)
  obtain ⟨made, after, _⟩ := exists_finished replied
  have decoded :
      (Hpack.decode (planOf rootRequest (answeredOn 3)).table ([0x88] ++ []) .silent).result =
        .ok answerReply.headers := by decide +kernel
  have takes : (planOf rootRequest (answeredOn 3)).Takes (framesOf made)
      ((answerFrames 3).drop 2) answerReply := by
    rw [received made after]
    exact ⟨(answerFrames 3).take 2, [], _, [], _, rfl, rfl, rfl, rfl, [0x88], rfl, rfl,
      ⟨rfl, rfl, rfl, rfl⟩, decoded, ⟨[], [], 2, 0, 0, rfl, nofun, rfl⟩, rfl⟩
  have same := only rootRequest (answeredOn 3) later answerReply made _ replied after takes
    ⟨.data, 0x01, 3, Ascii.octets "ok"⟩ (by decide)
  exact absurd same (by decide)

end WebFetch.Session
