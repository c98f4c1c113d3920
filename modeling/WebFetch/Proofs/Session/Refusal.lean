/-
This file says in which ways reading a response gives up. A frame whose type is not the mandated one
ends the exchange with what it says itself if it gives up the stream or the connection, with how far
its payload falls short if it says too little for that, and else with both types. Reading a body
gives up because of such a frame, because of padding, or because the stream fails, and in no other
way: whatever is read, the frames that it answers with can be built.
-/

import WebFetch.Proofs.Frame.Words
import WebFetch.Proofs.Session.Exchange

namespace WebFetch.Session

/-! ### Frames out of place -/

/-- What a frame reports whose type is not the mandated one. -/
def outOfPlace (mandated : FrameType) (frame : Frame) : SessionError :=
  let length := frame.payload.length
  match frame.type with
  | .rstStream =>
    if 4 ≤ length then .streamReset ⟨UInt32.ofNat (Frame.numberAt 0 frame.payload)⟩
    else .frame (.range (.outOfRange 0 4 length))
  | .goAway =>
    if 8 ≤ length then
      .goAway (UInt32.ofNat (Frame.numberAt 0 frame.payload % wordLimit31))
        ⟨UInt32.ofNat (Frame.numberAt 4 frame.payload)⟩
    else .frame (.range (.outOfRange (if length < 4 then 0 else 4) 4 length))
  | received => .unexpectedFrame mandated received

/-- A frame of another type than the mandated one is out of place. -/
theorem requireType_of_ne {mandated : FrameType} {frame : Frame} (other : frame.type ≠ mandated) :
    requireType mandated frame = .error (outOfPlace mandated frame) := by
  rw [requireType, if_neg other, outOfPlace]
  cases frame.type with
  | rstStream =>
    dsimp only
    by_cases long : 4 ≤ frame.payload.length
    · rw [if_pos long, Frame.parseRstStream_of_le long]
      rfl
    · rw [if_neg long, Frame.parseRstStream_of_lt (Nat.lt_of_not_le long)]
      rfl
  | goAway =>
    dsimp only
    by_cases long : 8 ≤ frame.payload.length
    · rw [if_pos long, Frame.parseGoAway_of_le long]
      rfl
    · rw [if_neg long, Frame.parseGoAway_of_lt (Nat.lt_of_not_le long)]
      rfl
  | _ => rfl

/-- The errors of frames that are reported for one out of place say that its payload is too
short. -/
theorem exists_range_of_outOfPlace {mandated : FrameType} {frame : Frame} {error : FrameError}
    (reported : outOfPlace mandated frame = .frame error) : ∃ range, error = .range range := by
  unfold outOfPlace at reported
  dsimp only at reported
  split at reported
  · split at reported
    · cases reported
    · cases reported
      exact ⟨_, rfl⟩
  · split at reported
    · cases reported
    · cases reported
      exact ⟨_, rfl⟩
  · cases reported

/-! ### How reading a body fails -/

/-- In which ways reading a body fails. -/
inductive BodyFailure : SessionError → Prop where
  | stream (error : IoError) : BodyFailure (.io error)
  | padded : BodyFailure .paddedData
  | misplaced (frame : Frame) : BodyFailure (outOfPlace .data frame)

/-- The stream is the only thing that writing a frame fails for. -/
theorem exists_io_of_writeFrame {frame : Frame} {session later : Session} {error : SessionError}
    (failed : writeFrame frame session = (.error error, later)) :
    ∃ failure, error = .io failure := by
  have step {Result : Type} {step : Stream → Except IoError Result × Stream}
      {session later : Session} (failed : onStream step session = (.error error, later)) :
      ∃ failure, error = .io failure := by
    unfold onStream at failed
    split at failed
    · cases failed
    · cases failed
      exact ⟨_, rfl⟩
  rcases exists_of_bind_eq_error failed with reporting | ⟨_, reported, _, failed⟩
  · cases reporting
  rcases exists_of_bind_eq_error failed with writing | ⟨_, written, _, failed⟩
  · exact step writing
  rcases exists_of_bind_eq_error failed with flushing | ⟨_, flushed, _, failed⟩
  · exact step flushing
  · cases failed

theorem exists_io_of_writeFrames {frames : List Frame} {session later : Session}
    {error : SessionError} (failed : writeFrames frames session = (.error error, later)) :
    ∃ failure, error = .io failure := by
  induction frames generalizing session with
  | nil => cases failed
  | cons frame frames inductionHypothesis =>
    rcases exists_of_bind_eq_error failed with first | ⟨_, middle, _, others⟩
    · exact exists_io_of_writeFrame first
    · exact inductionHypothesis others

/-- A frame of a body is read, or reading the body fails in one of these ways. -/
theorem bodyFailure_of_await {session later : Session} {error : SessionError}
    (failed : await .data session = (.error error, later)) : BodyFailure error := by
  rcases exists_of_bind_eq_error failed with reading | ⟨frame, middle, _, judged⟩
  · obtain ⟨_, _, _, _, _, result⟩ := exists_after_readFrame session
    rw [reading] at result
    obtain ⟨⟨failure, rfl⟩, _⟩ := result
    exact .stream failure
  · by_cases type : frame.type = .data
    · rw [requireType, if_pos type] at judged
      cases judged
    · rw [requireType_of_ne type] at judged
      cases judged
      exact .misplaced frame

/-- A frame that is read has a payload with a length of 24 bits. -/
theorem length_payload_lt_of_await {expected : FrameType} {session later : Session} {frame : Frame}
    (found : await expected session = (.ok frame, later)) : frame.payload.length < wordLimit24 := by
  obtain ⟨read, middle, reading, required⟩ := exists_of_bind_eq_ok found
  obtain ⟨rfl, _⟩ := type_of_requireType (Prod.mk.inj required).1
  obtain ⟨made, _, _, _, _, result⟩ := exists_after_readFrame session
  rw [reading] at result
  refine Frame.length_payload_lt_of_parseAll (StreamCall.allReceived made) frame ?_
  rw [result.1]
  exact List.mem_cons_self

/-- Reading a body fails in no other way. -/
theorem bodyFailure_of_readBodyFrom {pieces : List Octets} {session later : Session}
    {error : SessionError} (failed : readBodyFrom pieces session = (.error error, later)) :
    BodyFailure error := by
  induction weight : session.stream.weight using Nat.strongRecOn generalizing pieces session with
  | ind count inductionHypothesis =>
    subst weight
    rw [readBodyFrom_eq] at failed
    rcases exists_of_bind_eq_error failed with awaiting | ⟨frame, middle, awaited, failed⟩
    · exact bodyFailure_of_await awaiting
    · unfold takeData at failed
      split at failed
      · cases failed
        exact .padded
      · split at failed
        · cases failed
        · rcases exists_of_bind_eq_error failed with allowing | ⟨_, last, allowed, failed⟩
          · rw [allowMore_eq (length_payload_lt_of_await awaited)] at allowing
            obtain ⟨failure, rfl⟩ := exists_io_of_writeFrames allowing
            exact .stream failure
          · have kept := neverRefills_allowMore frame.payload.length middle
            rw [allowed] at kept
            exact inductionHypothesis _ (Nat.lt_of_le_of_lt kept (weight_await_lt awaited)) failed
              rfl

end WebFetch.Session
