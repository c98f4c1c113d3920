/-
This file says what an exchange can have written at every moment, whatever the other side sends and
however the stream fails. The octets are the beginning of a fixed sequence of frames, in which each
kind of frame needs something to have been received before; the exchange succeeds exactly when the
whole sequence was written and passed on; and after a failed call, or once what was received cannot
be gone on with, no call is made any more.
-/

import Mathlib.Data.List.Infix
import WebFetch.Proofs.Session.Exchange

namespace WebFetch.Session

open StreamCall

/-! ### The conversation of an exchange -/

/-- What an exchange on a session depends on. -/
def planOf (request : Request) (session : Session) : Plan :=
  ⟨session.options, request, session.table⟩

/-- Before anything happens, a session stands at the start of its course. -/
theorem standing_planOf (request : Request) (session : Session) :
    Standing (planOf request session) session.stream [] [] session :=
  ⟨rfl, [], Stream.after_nil _, (planOf request session).faithful_nil, Frame.parseAll_nil, rfl,
    allSucceed_nil⟩

/-- The calls of an exchange follow its course, and the result is the one of the course unless a
call failed or the request does not fit into frames. -/
theorem exchange_follows (request : Request) (session : Session) :
    ∃ made, session.stream.After made (exchange request session).2.stream ∧
      (planOf request session).Faithful made ∧
      match (exchange request session).1 with
      | .ok reply => AllSucceed made ∧
          (planOf request session).phase (framesOf made) = .finished reply ∧
          allSent made = (planOf request session).output (framesOf made) ∧
          made.getLast? = some (.flush (.ok ()))
      | .error error => (planOf request session).Ending made error := by
  have leads := leads_exchange (standing_planOf request session) rfl
  unfold Leads at leads
  show ∃ made, session.stream.After made (exchange request session).2.stream ∧ _
  cases found : exchange request session with
  | mk result later =>
    have same : exchange (planOf request session).request session = (result, later) := found
    rw [same] at leads
    cases result with
    | error error => exact leads
    | ok reply =>
      obtain ⟨⟨known, sent, standing, phase, output⟩, last⟩ := leads
      obtain ⟨made, after, reached⟩ := standing.reached
      have frames : framesOf made = known := by rw [framesOf, reached.received]
      refine ⟨made, after, reached.faithful, reached.succeed, ?_, ?_, ?_⟩
      · rw [frames]
        exact phase
      · rw [frames, reached.sent, output]
        exact (List.append_nil sent).symm
      · -- The last call is one of the exchange, as the preface at least was written.
        have some : made ≠ [] := by
          rintro rfl
          have nothing : sent = [] := reached.sent.symm
          have preface : (planOf request session).output known = [] := by
            rw [output, nothing]
            rfl
          exact List.append_ne_nil_of_left_ne_nil (by decide : Frame.preface ≠ []) _ preface
        rw [after.calls, List.getLast?_append_of_ne_nil _ some] at last
        exact last

/-! ### What is permitted -/

/-- What may have been written when frames were received: the preface, the settings, `acks`
acknowledgements, the request, credit for octets of the body, and the end of the connection, each of
them up to some octet and only after what it needs. -/
structure Permitted (plan : Plan) (frames : List Frame) (sent : Octets) (acks : Nat)
    (credits : List Nat) : Prop where
  order : sent <+: plan.octets (plan.credited acks credits ++ [closing])
  /-- Each acknowledgement needs settings of the other side. -/
  acknowledged : acks ≤ announcements frames
  /-- The request needs settings of the other side and its acknowledgement. -/
  requested : (plan.octets (List.replicate acks Frame.settingsAck)).length < sent.length →
    Agreed frames
  /-- Credit needs a whole header block with a status, and is for 1 to 2^24 - 1 octets. -/
  credited : (plan.octets (plan.opened acks)).length < sent.length → Headed plan.table frames
  bounded : AreCredits credits
  /-- The end of the connection needs the end of the stream. -/
  closed : (plan.octets (plan.credited acks credits)).length < sent.length →
    StreamEnded plan.table frames

theorem StreamEnded.headed {table : DynamicTable} {frames : List Frame}
    (ended : StreamEnded table frames) : Headed table frames := by
  obtain ⟨ends, after, found, _⟩ := ended
  exact ⟨ends, after, found⟩

/-- The beginning of answers that are in order is permitted. -/
theorem exists_permitted {plan : Plan} {frames answers : List Frame} {sent : Octets}
    (answered : Answered plan frames answers) (part : sent <+: plan.octets answers) :
    ∃ acks credits, Permitted plan frames sent acks credits := by
  have bound := part.length_le
  -- Each part of the sequence comes after the one before.
  have acksOpened (acks : Nat) : List.replicate acks Frame.settingsAck <+: plan.opened acks :=
    List.prefix_append _ _
  have openedCredited (acks : Nat) (credits : List Nat) :
      plan.opened acks <+: plan.credited acks credits := List.prefix_append _ _
  have creditedClosed (acks : Nat) (credits : List Nat) :
      plan.credited acks credits <+: plan.credited acks credits ++ [closing] :=
    List.prefix_append _ _
  have within {first second : List Frame} (before : first <+: second)
      (long : (plan.octets second).length < (plan.octets first).length) : False :=
    Nat.not_lt_of_le (plan.octets_of_isPrefix before).length_le long
  cases answered with
  | settling acks counted =>
    have openedPart := acksOpened acks
    have creditedPart := openedPart.trans (openedCredited acks [])
    refine ⟨acks, [], ?_, counted, fun long => ?_, fun long => ?_, areCredits_nil, fun long => ?_⟩
    · exact part.trans (plan.octets_of_isPrefix (creditedPart.trans (creditedClosed acks [])))
    · exact absurd bound (Nat.not_le_of_lt long)
    · exact (within openedPart (Nat.lt_of_lt_of_le long bound)).elim
    · exact (within creditedPart (Nat.lt_of_lt_of_le long bound)).elim
  | opened acks counted agreed =>
    have creditedPart := openedCredited acks []
    refine ⟨acks, [], ?_, counted, fun _ => agreed, fun long => ?_, areCredits_nil, fun long => ?_⟩
    · exact part.trans (plan.octets_of_isPrefix (creditedPart.trans (creditedClosed acks [])))
    · exact absurd bound (Nat.not_le_of_lt long)
    · exact (within creditedPart (Nat.lt_of_lt_of_le long bound)).elim
  | credited acks credits counted agreed bounded headed =>
    refine ⟨acks, credits, ?_, counted, fun _ => agreed, fun _ => headed, bounded, fun long => ?_⟩
    · exact part.trans (plan.octets_of_isPrefix (creditedClosed acks credits))
    · exact absurd bound (Nat.not_le_of_lt long)
  | closed acks credits counted agreed bounded ended =>
    exact ⟨acks, credits, part, counted, fun _ => agreed, fun _ => ended.headed, bounded,
      fun _ => ended⟩

/-! ### The end of the connection -/

/-- The frames that calls have sent whole after the preface. -/
def sentFrames (calls : List StreamCall) : List Frame :=
  (Frame.parseAll ((allSent calls).drop Frame.preface.length)).1

theorem fits_octets {plan : Plan} {answers : List Frame} {frames : List Frame}
    (small : (Frame.settings plan.options.settings).payload.length < wordLimit24)
    (answered : Answered plan frames answers) :
    ∀ frame ∈ Frame.settings plan.options.settings :: answers, frame.Fits := by
  refine List.forall_mem_cons.mpr ⟨fits_control rfl small, ?_⟩
  have early {acks : Nat} {credits : List Nat} {some : List Frame}
      (part : some <+: plan.credited acks credits ++ [closing]) :
      ∀ frame ∈ some, frame.Fits :=
    fun frame member => fits_credited plan acks credits frame (part.subset member)
  cases answered with
  | settling acks => exact early (((List.prefix_append _ _).trans
      (List.prefix_append _ ([].flatMap creditFrames))).trans (List.prefix_append _ _))
  | opened acks => exact early ((List.prefix_append _ ([].flatMap creditFrames)).trans
      (List.prefix_append _ _))
  | credited acks credits => exact early (List.prefix_append _ _)
  | closed acks credits => exact early List.prefix_rfl

/-- What was sent of the octets of answers is read back as frames of these answers. -/
theorem sentFrames_of_isPrefix {plan : Plan} {answers : List Frame} {calls : List StreamCall}
    (fits : ∀ frame ∈ Frame.settings plan.options.settings :: answers, frame.Fits)
    (part : allSent calls <+: plan.octets answers) :
    sentFrames calls <+: Frame.settings plan.options.settings :: answers := by
  have rest := part.drop Frame.preface.length
  rw [Plan.octets, List.drop_left] at rest
  exact (Frame.parseAll_of_isPrefix fits rest).1

/-- All octets of answers are read back as these answers. -/
theorem sentFrames_of_eq {plan : Plan} {answers : List Frame} {calls : List StreamCall}
    (fits : ∀ frame ∈ Frame.settings plan.options.settings :: answers, frame.Fits)
    (whole : allSent calls = plan.octets answers) :
    sentFrames calls = Frame.settings plan.options.settings :: answers := by
  rw [sentFrames, whole, Plan.octets, List.drop_left, Frame.parseAll_encodeAll fits]

/-- The connection is ended when the response is whole. -/
theorem closing_mem_answers {plan : Plan} {frames : List Frame} {reply : Reply}
    (small : AllSmall frames) (finished : plan.phase frames = .finished reply) :
    closing ∈ plan.answers frames := by
  have reaches := reaches_phase plan small
  rw [finished] at reaches
  obtain ⟨acks, credits, _, _, _, _, same⟩ := reaches
  rw [same]
  exact List.mem_append_right _ (List.mem_singleton_self _)

/-! ### Safety -/

/-- What holds of the calls that an exchange made and of its result. -/
structure Safe (plan : Plan) (made : List StreamCall) (result : Except SessionError Reply) :
    Prop where
  /-- At every moment, what was sent is permitted by the frames received until then. -/
  permitted : ∀ past, past <+: made →
    ∃ acks credits, Permitted plan (framesOf past) (allSent past) acks credits
  /-- The exchange succeeds exactly when the end of the connection was written and passed on. -/
  success : (∃ reply, result = .ok reply) ↔
    closing ∈ sentFrames made ∧ made.getLast? = some (.flush (.ok ()))
  /-- A call that fails is the last one, and the exchange fails. -/
  failure : ∀ past call rest, made = past ++ call :: rest → call.Fails →
    rest = [] ∧ ∃ error, result = .error error
  /-- Once the frames received give the exchange up, no call is made, and this is the result. -/
  refusal : ∀ past error, past <+: made → plan.phase (framesOf past) = .failed error →
    past = made ∧ result = .error error
  /-- There are no other errors but the request that does not fit into frames. -/
  error : ∀ error, result = .error error → plan.Ending made error

theorem Plan.Ending.calls {plan : Plan} {made : List StreamCall} {error : SessionError}
    (ending : plan.Ending made error) : AllSucceed made ∨ LastFails made := by
  cases ending with
  | failing error fails => exact Or.inr fails
  | refused _ succeed => exact Or.inl succeed
  | unsendable error succeed => exact Or.inl succeed

/-- There is no call after one that fails. -/
theorem eq_nil_of_fails {past rest : List StreamCall} {call : StreamCall} (fails : call.Fails)
    (calls : AllSucceed (past ++ call :: rest) ∨ LastFails (past ++ call :: rest)) :
    rest = [] := by
  rcases calls with succeed | ⟨before, last, same, succeed, _⟩
  · exact absurd fails (succeed call (List.mem_append_right _ List.mem_cons_self))
  · rcases List.eq_nil_or_concat rest with none | ⟨others, other, rfl⟩
    · exact none
    · rw [List.concat_eq_append, ← List.cons_append, ← List.append_assoc] at same
      obtain ⟨early, _⟩ := List.append_inj' same rfl
      have member : call ∈ before := by
        rw [← early]
        exact List.mem_append_right _ List.mem_cons_self
      exact absurd fails (succeed call member)

/-- A call that fails receives nothing. -/
theorem framesOf_concat_of_fails {before : List StreamCall} {call : StreamCall}
    (fails : call.Fails) : framesOf (before ++ [call]) = framesOf before := by
  have nothing : allReceived [call] = [] := by
    rw [allReceived, List.flatMap_singleton, received_of_fails fails]
  rw [framesOf, allReceived_append, nothing, List.append_nil, framesOf]

/-- Once an exchange is given up, no call is made. -/
theorem Plan.Faithful.eq_of_failed {plan : Plan} {made past : List StreamCall}
    {error : SessionError} (faithful : plan.Faithful made) (part : past <+: made)
    (failed : plan.phase (framesOf past) = .failed error) : past = made := by
  obtain ⟨rest, rfl⟩ := part
  cases rest with
  | nil => exact (List.append_nil past).symm
  | cons call rest =>
    have next : past ++ [call] <+: past ++ call :: rest :=
      (List.prefix_append_right_inj past).mpr ⟨rest, rfl⟩
    exact absurd ⟨error, failed⟩ (faithful.alive past call next)

/-- If the frames received give an exchange up, this is the error that it ends with. -/
theorem Plan.Ending.refusal {plan : Plan} {made : List StreamCall} {error refusal : SessionError}
    (ending : plan.Ending made error) (faithful : plan.Faithful made)
    (failed : plan.phase (framesOf made) = .failed refusal) : error = refusal := by
  cases ending with
  | failing error fails =>
    obtain ⟨before, call, rfl, _, callFails⟩ := fails
    rw [framesOf_concat_of_fails callFails] at failed
    exact absurd ⟨refusal, failed⟩ (faithful.alive before call List.prefix_rfl)
  | refused _ succeed same =>
    rw [same] at failed
    exact Phase.failed.inj failed
  | unsendable error succeed ready =>
    rw [ready] at failed
    cases failed

/-- Calls that end with an error have not ended the connection, or it was not passed on. -/
theorem Plan.Ending.not_closed {plan : Plan} {made : List StreamCall} {error : SessionError}
    (small : (Frame.settings plan.options.settings).payload.length < wordLimit24)
    (ending : plan.Ending made error) (faithful : plan.Faithful made)
    (member : closing ∈ sentFrames made) (last : made.getLast? = some (.flush (.ok ()))) :
    False := by
  have answered := answered_answers plan (allSmall_framesOf made)
  have sent := sentFrames_of_isPrefix (fits_octets small answered)
    (faithful.sent made List.prefix_rfl)
  -- The frame that ends the connection is an answer, so the response is whole.
  have finished : ∃ reply, plan.phase (framesOf made) = .finished reply := by
    rcases List.mem_cons.mp (sent.subset member) with settings | answer
    · have type : FrameType.goAway = FrameType.settings := congrArg Frame.type settings
      cases type
    · exact finished_of_mem_answers answer rfl
  obtain ⟨reply, whole⟩ := finished
  cases ending with
  | failing error fails =>
    obtain ⟨before, call, rfl, _, callFails⟩ := fails
    rw [List.getLast?_concat, Option.some.injEq] at last
    rw [last] at callFails
    exact callFails
  | refused _ succeed same =>
    rw [same] at whole
    cases whole
  | unsendable error succeed ready =>
    rw [ready] at whole
    cases whole

/-- Whatever the other side sends and however the stream fails, an exchange whose settings fit into
a frame is safe. -/
theorem exchange_safe (request : Request) (session : Session)
    (small : (Frame.settings session.options.settings).payload.length < wordLimit24) :
    ∃ made, session.stream.After made (exchange request session).2.stream ∧
      Safe (planOf request session) made (exchange request session).1 := by
  obtain ⟨made, after, faithful, ending⟩ := exchange_follows request session
  have permitted (past : List StreamCall) (part : past <+: made) :
      ∃ acks credits,
        Permitted (planOf request session) (framesOf past) (allSent past) acks credits :=
    exists_permitted (answered_answers _ (allSmall_framesOf past)) (faithful.sent past part)
  refine ⟨made, after, ?_⟩
  cases result : (exchange request session).1 with
  | ok reply =>
    rw [result] at ending
    obtain ⟨succeed, finished, whole, last⟩ := ending
    have answered := answered_answers (planOf request session) (allSmall_framesOf made)
    refine ⟨permitted, ⟨fun _ => ⟨?_, last⟩, fun _ => ⟨reply, rfl⟩⟩, ?_, ?_,
      fun _ same => nomatch same⟩
    · rw [sentFrames_of_eq (fits_octets small answered) whole]
      exact List.mem_cons_of_mem _ (closing_mem_answers (allSmall_framesOf made) finished)
    · rintro past call rest rfl fails
      exact absurd fails (succeed call (List.mem_append_right _ List.mem_cons_self))
    · intro past error part failed
      rw [faithful.eq_of_failed part failed, finished] at failed
      cases failed
  | error error =>
    rw [result] at ending
    refine ⟨permitted, ⟨?_, ?_⟩, ?_, ?_, ?_⟩
    · rintro ⟨reply, same⟩
      cases same
    · rintro ⟨member, last⟩
      exact (ending.not_closed small faithful member last).elim
    · rintro past call rest rfl fails
      exact ⟨eq_nil_of_fails fails ending.calls, error, rfl⟩
    · intro past refusal part failed
      have same := faithful.eq_of_failed part failed
      rw [same] at failed
      exact ⟨same, congrArg Except.error (ending.refusal faithful failed)⟩
    · intro other same
      cases same
      exact ending

/-- A session on a stream that takes few octets at first, is interrupted, and breaks after the
settings of the other side. -/
def brokenSession : Session :=
  new ⟨[⟨3, 100⟩], 16⟩
    { Stream.ofEvents [.arrive (Frame.settings []).encode, .fail ⟨.connectionReset, "reset"⟩] with
      writeEvents := [.take 5, .fail ⟨.interrupted, "interrupted"⟩] } .silent

/-- A session on a stream that waits for each answer and brings a body in two frames. -/
def creditedSession : Session :=
  new ⟨[⟨3, 100⟩], 16384⟩ (Stream.ofEvents
    [.arrive (Frame.encodeAll [Frame.settings [], Frame.settingsAck]),
      .wait fun written => decide (118 ≤ written.length),
      .arrive (Frame.encodeAll [⟨.headers, Flag.endHeaders, 1, [0x88]⟩, ⟨.data, 0, 1, [7, 8, 9]⟩]),
      .wait fun written => decide (144 ≤ written.length),
      .arrive (Frame.encode ⟨.data, Flag.endStream, 1, [10]⟩)]) .silent

/-- A request for the root of a server. -/
def rootRequest : Request := ⟨"https", "example.com", "/", []⟩

/-- One exchange goes no further than the acknowledgement, and one goes on through the request and
the credit for three octets to the end of the connection. -/
theorem exchange_safe_brokenSession :
    let opening := Frame.preface ++ [0, 0, 6, 4, 0, 0, 0, 0, 0] ++ [0, 3, 0, 0, 0, 100] ++
      [0, 0, 0, 4, 1, 0, 0, 0, 0]
    ((Frame.settings brokenSession.options.settings).payload.length < wordLimit24 ∧
      ∃ made, brokenSession.stream.After made (exchange rootRequest brokenSession).2.stream ∧
        Safe (planOf rootRequest brokenSession) made (exchange rootRequest brokenSession).1 ∧
        allSent made = opening) ∧
    (Frame.settings creditedSession.options.settings).payload.length < wordLimit24 ∧
      ∃ made reply,
        creditedSession.stream.After made (exchange rootRequest creditedSession).2.stream ∧
        Safe (planOf rootRequest creditedSession) made (.ok reply) ∧ reply.body = [7, 8, 9, 10] ∧
        allSent made = opening ++
          [0, 0, 61, 1, 5, 0, 0, 0, 1] ++ Hpack.encode rootRequest.headerList ++
          [0, 0, 4, 8, 0, 0, 0, 0, 1] ++ [0, 0, 0, 3] ++
          [0, 0, 4, 8, 0, 0, 0, 0, 0] ++ [0, 0, 0, 3] ++
          [0, 0, 8, 7, 0, 0, 0, 0, 0] ++ [0, 0, 0, 1, 0, 0, 0, 0] := by
  intro opening
  have brokenSmall : (Frame.settings brokenSession.options.settings).payload.length <
      wordLimit24 := by decide
  have creditedSmall : (Frame.settings creditedSession.options.settings).payload.length <
      wordLimit24 := by decide
  obtain ⟨broken, brokenAfter, brokenSafe⟩ := exchange_safe rootRequest brokenSession brokenSmall
  obtain ⟨whole, wholeAfter, wholeSafe⟩ := exchange_safe rootRequest creditedSession creditedSmall
  have brokenCalls : (exchange rootRequest brokenSession).2.stream.calls = broken :=
    brokenAfter.calls
  have wholeCalls : (exchange rootRequest creditedSession).2.stream.calls = whole :=
    wholeAfter.calls
  have replied : (exchange rootRequest creditedSession).1 =
      .ok ⟨200, [Header.ofText ":status" "200"], [7, 8, 9, 10]⟩ := by decide +kernel
  rw [replied] at wholeSafe
  refine ⟨⟨brokenSmall, broken, brokenAfter, brokenSafe, ?_⟩, creditedSmall, whole, _, wholeAfter,
    wholeSafe, rfl, ?_⟩
  · rw [← brokenCalls]
    decide +kernel
  · rw [← wholeCalls]
    decide +kernel

end WebFetch.Session
