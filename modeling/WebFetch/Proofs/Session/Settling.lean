/-
This file is about how the settings of both sides are settled. A session reads frames up to the
first by which it has seen the settings of the other side and the acknowledgement of its own, in
whichever order they come and whatever comes between. It acknowledges settings one by one, also
those that come again, and answers nothing else. Settings of a length that is not a whole number of
settings end the exchange, and so does the end of the stream.
-/

import Mathlib.Order.Bounds.Defs
import WebFetch.Proofs.Frame.Settings
import WebFetch.Proofs.Session.Answers
import WebFetch.Proofs.Session.Serving

namespace WebFetch.Session

/-! ### What frames settle -/

/-- How a frame is answered before the settings of both sides hold. -/
def acknowledgementOf (frame : Frame) : List Frame :=
  if announces frame = true then [Frame.settingsAck] else []

/-- Whether a frame holds a whole number of settings if it announces some. -/
def Settles (frame : Frame) : Prop := announces frame = true → frame.payload.length % 6 = 0

instance (frame : Frame) : Decidable (Settles frame) :=
  inferInstanceAs (Decidable (announces frame = true → frame.payload.length % 6 = 0))

/-- How far the exchange of settings is after frames. -/
def Agreement.after (agreement : Agreement) (frames : List Frame) : Agreement :=
  ⟨agreement.announced || frames.any announces, agreement.acknowledged || frames.any acknowledges⟩

theorem Agreement.after_nil (agreement : Agreement) : agreement.after [] = agreement := by
  rw [after, List.any_nil, List.any_nil, Bool.or_false, Bool.or_false]

theorem Agreement.after_cons (agreement : Agreement) (frame : Frame) (frames : List Frame) :
    agreement.after (frame :: frames) = (agreement.after [frame]).after frames := by
  simp only [after, List.any_cons, List.any_nil, Bool.or_false, Bool.or_assoc]

theorem Agreement.after_append (agreement : Agreement) (first second : List Frame) :
    agreement.after (first ++ second) = (agreement.after first).after second := by
  simp only [after, List.any_append, Bool.or_assoc]

/-- What holds already is not lost. -/
theorem Agreement.complete_after {agreement : Agreement} (complete : agreement.complete = true)
    (frames : List Frame) : (agreement.after frames).complete = true := by
  rw [Agreement.complete, Bool.and_eq_true] at complete
  rw [Agreement.complete, after, complete.1, complete.2]
  rfl

/-- The settings of both sides hold after frames among which are announced and acknowledged ones. -/
theorem complete_after_iff (frames : List Frame) :
    (Agreement.after ⟨false, false⟩ frames).complete = true ↔ Agreed frames := by
  rw [Agreement.complete, Agreement.after, Bool.false_or, Bool.false_or, Bool.and_eq_true,
    List.any_eq_true, List.any_eq_true]
  rfl

instance (frames : List Frame) : Decidable (Agreed frames) :=
  decidable_of_iff _ (complete_after_iff frames)

/-- As many acknowledgements are sent as settings are announced. -/
theorem flatMap_acknowledgementOf (frames : List Frame) :
    frames.flatMap acknowledgementOf = List.replicate (announcements frames) Frame.settingsAck := by
  induction frames with
  | nil => rfl
  | cons frame frames inductionHypothesis =>
    rw [List.flatMap_cons, inductionHypothesis, acknowledgementOf, announcements, announcements]
    by_cases announcing : announces frame = true
    · rw [if_pos announcing, List.countP_cons_of_pos announcing]
      rfl
    · rw [if_neg announcing, List.countP_cons_of_neg announcing]
      rfl

/-! ### One frame -/

variable {session : Session} {frame : Frame} {agreement : Agreement} {frames more : List Frame}

theorem announces_eq_true_iff :
    announces frame = true ↔ frame.type = .settings ∧ frame.has Flag.ack = false := by
  rw [announces, Bool.and_eq_true, decide_eq_true_iff, Bool.not_eq_true']

/-- Settings of a whole length are accepted and acknowledged. -/
theorem acceptSettings_of_canSend {payload : Octets} (whole : payload.length % 6 = 0)
    (can : session.stream.CanSend (Frame.settingsAck :: more)) :
    ∃ later, acceptSettings payload session = (.ok (), later) ∧
      session.stream.Traded [] [Frame.settingsAck] later.stream := by
  obtain ⟨journal, reported⟩ : ∃ journal,
      (Frame.wholeSettings payload).forM reportSetting session =
        (.ok (), { session with journal := journal }) :=
    exists_journal_of_forM (fun _ _ => ⟨_, rfl⟩) _ session
  obtain ⟨later, wrote, traded, _⟩ :=
    @writeFrame_of_canSend Frame.settingsAck { session with journal := journal } more can
  have taken : yieldOf ((Frame.parseSettings payload).mapError .frame) session =
      (.ok (Frame.wholeSettings payload), session) := by
    rw [Frame.parseSettings_of_whole whole]
    rfl
  rw [acceptSettings, bind_of_ok taken, bind_of_ok reported]
  exact ⟨later, wrote, traded⟩

/-- A frame that does not end the exchange is answered, and what holds after it is known. -/
theorem settle_of_canSend (settles : Settles frame)
    (can : session.stream.CanSend (acknowledgementOf frame ++ more)) :
    ∃ later, settle agreement frame session = (.ok (agreement.after [frame]), later) ∧
      session.stream.Traded [] (acknowledgementOf frame) later.stream := by
  rw [settle, Agreement.after, List.any_cons, List.any_nil, Bool.or_false, List.any_cons,
    List.any_nil, Bool.or_false]
  by_cases settings : frame.type = .settings
  · rw [if_neg (not_not_intro settings)]
    by_cases acknowledging : frame.has Flag.ack = true
    · have announced : announces frame = false := by
        rw [announces, acknowledging, Bool.not_true, Bool.and_false]
      have acknowledged : acknowledges frame = true := by
        rw [acknowledges, acknowledging, Bool.and_true, decide_eq_true settings]
      rw [if_pos acknowledging, acknowledgementOf, announced, acknowledged, Bool.or_false,
        Bool.or_true]
      exact ⟨session, rfl, Stream.traded_nil _⟩
    · have announced : announces frame = true :=
        announces_eq_true_iff.mpr ⟨settings, eq_false_of_ne_true acknowledging⟩
      have acknowledged : acknowledges frame = false := by
        rw [acknowledges, eq_false_of_ne_true acknowledging, Bool.and_false]
      rw [acknowledgementOf, if_pos announced] at can ⊢
      obtain ⟨later, accepted, traded⟩ := acceptSettings_of_canSend (settles announced) can
      rw [if_neg acknowledging, bind_of_ok accepted, announced, acknowledged, Bool.or_false,
        Bool.or_true]
      exact ⟨later, rfl, traded⟩
  · have announced : announces frame = false := by
      rw [announces, decide_eq_false settings, Bool.false_and]
    have acknowledged : acknowledges frame = false := by
      rw [acknowledges, decide_eq_false settings, Bool.false_and]
    rw [if_pos settings, acknowledgementOf, announced, acknowledged, Bool.or_false, Bool.or_false]
    exact ⟨_, rfl, Stream.traded_nil _⟩

/-- Settings of another length are not accepted. -/
theorem settle_of_not_settles (broken : ¬ Settles frame) :
    settle agreement frame session =
      (.error (.frame (.invalidSettings frame.payload.length)), session) := by
  obtain ⟨announcing, uneven⟩ := Classical.not_imp.mp broken
  obtain ⟨settings, fresh⟩ := announces_eq_true_iff.mp announcing
  have refused : yieldOf ((Frame.parseSettings frame.payload).mapError .frame) session =
      (.error (.frame (.invalidSettings frame.payload.length)), session) := by
    rw [Frame.parseSettings_of_uneven uneven]
    rfl
  rw [settle, if_neg (not_not_intro settings), if_neg (Bool.eq_false_iff.mp fresh)]
  exact bind_of_error (bind_of_error refused)

/-! ### Frames one after the other -/

/-- While the settings of both sides do not hold, a frame is read and answered. -/
theorem awaitSettings_of_settles (incomplete : agreement.complete = false) (settles : Settles frame)
    (serves : session.stream.Serves acknowledgementOf (frame :: frames))
    (accepts : session.stream.Accepts) :
    ∃ later, awaitSettings agreement session = awaitSettings (agreement.after [frame]) later ∧
      session.stream.Traded [frame] (acknowledgementOf frame) later.stream := by
  obtain ⟨middle, read, received, _⟩ := readFrame_of_serves serves
  obtain ⟨later, settled, sent⟩ := settle_of_canSend settles
    ((received.accepts accepts).canSend (acknowledgementOf frame ++ []))
  rw [awaitSettings_of_incomplete incomplete, bind_of_ok read, bind_of_ok settled]
  exact ⟨later, rfl, received.trans sent⟩

/-- Frames are read and answered as long as the settings of both sides do not hold after them. -/
theorem awaitSettings_of_forall_settles (incomplete : (agreement.after frames).complete = false)
    (settle : ∀ frame ∈ frames, Settles frame)
    (serves : session.stream.Serves acknowledgementOf (frames ++ more))
    (accepts : session.stream.Accepts) :
    ∃ later, awaitSettings agreement session = awaitSettings (agreement.after frames) later ∧
      session.stream.Traded frames (frames.flatMap acknowledgementOf) later.stream := by
  induction frames generalizing session agreement with
  | nil =>
    rw [Agreement.after_nil]
    exact ⟨session, rfl, Stream.traded_nil _⟩
  | cons frame frames inductionHypothesis =>
    rw [Agreement.after_cons] at incomplete ⊢
    have incompleteBefore : agreement.complete = false := by
      by_contra complete
      rw [Bool.not_eq_false] at complete
      rw [(Agreement.complete_after (Agreement.complete_after complete _) _)] at incomplete
      cases incomplete
    obtain ⟨middle, first, traded⟩ :=
      awaitSettings_of_settles incompleteBefore (settle frame List.mem_cons_self) serves accepts
    obtain ⟨later, rest, tradedLater⟩ := inductionHypothesis incomplete
      (fun other member => settle other (List.mem_cons_of_mem _ member)) (serves.tail traded)
      (traded.accepts accepts)
    exact ⟨later, first.trans rest, traded.trans tradedLater⟩

/-! ### Opening a session -/

/-- What is written when frames are awaited: the preface and the settings of the session. -/
def opening (session : Session) : Octets :=
  session.stream.written ++ Frame.preface ++ (Frame.settings session.options.settings).encode

theorem sendPreface_of_accepts (accepts : session.stream.Accepts) :
    ∃ later, sendPreface session = (.ok (), later) ∧ later.stream.Accepts ∧
      later.options = session.options ∧ later.stream.events = session.stream.events ∧
      later.stream.written = session.stream.written ++ Frame.preface := by
  obtain ⟨taken, wrote, takenAccepts, written⟩ :=
    Stream.writeAll_of_accepts accepts Frame.preface
  have events := (Stream.ignoresReading_writeAll Frame.preface).events session.stream
  rw [wrote] at events
  have writing : writeOctets Frame.preface session = (.ok (), { session with stream := taken }) :=
    onStream_of_ok wrote
  rw [sendPreface, bind_of_ok writing]
  exact ⟨_, rfl, takenAccepts, rfl, events, written⟩

/-- The preface and the settings are written, and frames are awaited. -/
theorem handshake_of_accepts (accepts : session.stream.Accepts) :
    ∃ opened, handshake session = awaitSettings ⟨false, false⟩ opened ∧ opened.stream.Accepts ∧
      opened.stream.events = session.stream.events ∧
      opened.stream.written = opening session := by
  obtain ⟨begun, prefaced, begunAccepts, options, begunEvents, begunWritten⟩ :=
    sendPreface_of_accepts accepts
  obtain ⟨opened, wrote, traded, _⟩ := writeFrame_of_canSend
    (begunAccepts.canSend [Frame.settings begun.options.settings])
  have announcing : sendSettings begun = (.ok (), opened) := wrote
  refine ⟨opened, ?_, traded.accepts begunAccepts, ?_, ?_⟩
  · rw [handshake, bind_of_ok prefaced, bind_of_ok announcing]
  · rw [traded.events, ← begunEvents]
    exact ReadEvent.remaining_zero _
  · rw [traded.written, begunWritten, options, opening, Frame.encodeAll, List.flatMap_singleton]

/-- Whether a session has been opened, has read frames and has acknowledged settings a number of
times, and has done nothing else. It accepts everything still. -/
structure Settled (start : Session) (received : List Frame) (acks : Nat) (session : Session) :
    Prop where
  events : session.stream.events =
    ReadEvent.remaining (Frame.encodeAll received).length start.stream.events
  written : session.stream.written =
    opening start ++ Frame.encodeAll (List.replicate acks Frame.settingsAck)
  accepts : session.stream.Accepts

/-- Frames that come after a session has been opened. -/
def Greets (session : Session) (frames : List Frame) : Prop :=
  ReadEvent.Serves acknowledgementOf (opening session) session.stream.events frames

/-- Whether nothing comes after frames that the other side has sent: the stream ends or is cut off
before another frame is whole. -/
def RunsOut (session : Session) (frames : List Frame) : Prop :=
  let written := opening session ++
    Frame.encodeAll (List.replicate (announcements frames) Frame.settingsAck)
  let left := ReadEvent.remaining (Frame.encodeAll frames).length session.stream.events
  ReadEvent.Closes written left ∧
    ∃ error, Frame.parse (ReadEvent.pending written left) = .error error

/-- Frames after which the settings of both sides do not hold are read and answered, and more are
awaited. -/
theorem handshake_of_not_agreed {before : List Frame} (accepts : session.stream.Accepts)
    (settle : ∀ frame ∈ before, Settles frame) (unsettled : ¬ Agreed before)
    (greets : Greets session (before ++ more)) :
    ∃ later, handshake session = awaitSettings (Agreement.after ⟨false, false⟩ before) later ∧
      (Agreement.after ⟨false, false⟩ before).complete = false ∧
      later.stream.Serves acknowledgementOf more ∧
      Settled session before (announcements before) later := by
  have incomplete : (Agreement.after ⟨false, false⟩ before).complete = false :=
    eq_false_of_ne_true fun complete => unsettled ((complete_after_iff before).mp complete)
  obtain ⟨opened, same, openedAccepts, events, written⟩ := handshake_of_accepts accepts
  have serves : opened.stream.Serves acknowledgementOf (before ++ more) := by
    rw [Stream.Serves, events, written]
    exact greets
  obtain ⟨later, run, traded⟩ :=
    awaitSettings_of_forall_settles incomplete settle serves openedAccepts
  refine ⟨later, same.trans run, incomplete, serves.after traded, ?_, ?_,
    traded.accepts openedAccepts⟩
  · rw [traded.events, events]
  · rw [traded.written, written, flatMap_acknowledgementOf]

/-! ### The whole exchange of settings -/

/-- The frame by which the settings of both sides hold for the first time is the last that is
read. -/
theorem handshake_of_agreed {before : List Frame} {last : Frame} (accepts : session.stream.Accepts)
    (settle : ∀ frame ∈ before ++ [last], Settles frame) (unsettled : ¬ Agreed before)
    (agreed : Agreed (before ++ [last])) (greets : Greets session (before ++ [last])) :
    ∃ later, handshake session = (.ok (), later) ∧
      Settled session (before ++ [last]) (announcements (before ++ [last])) later := by
  obtain ⟨settleBefore, settleLast⟩ := List.forall_mem_append.mp settle
  obtain ⟨middle, same, incomplete, serves, settled⟩ :=
    handshake_of_not_agreed accepts settleBefore unsettled greets
  obtain ⟨later, step, traded⟩ := awaitSettings_of_settles incomplete
    (settleLast last List.mem_cons_self) serves settled.accepts
  rw [← Agreement.after_append] at step
  refine ⟨later, ?_, ?_, ?_, traded.accepts settled.accepts⟩
  · rw [same, step, awaitSettings_of_complete ((complete_after_iff _).mpr agreed)]
    rfl
  · rw [traded.events, settled.events, ReadEvent.remaining_remaining, ← List.length_append,
      ← Frame.encodeAll_append]
  · rw [traded.written, settled.written, List.append_assoc, ← Frame.encodeAll_append,
      ← flatMap_acknowledgementOf, ← flatMap_acknowledgementOf, List.flatMap_append,
      List.flatMap_singleton]

/-- Settings of another length end the exchange, and are not acknowledged. -/
theorem handshake_of_not_settles {before : List Frame} {last : Frame}
    (accepts : session.stream.Accepts) (settle : ∀ frame ∈ before, Settles frame)
    (unsettled : ¬ Agreed before) (broken : ¬ Settles last)
    (greets : Greets session (before ++ [last])) :
    ∃ later, handshake session =
        (.error (.frame (.invalidSettings last.payload.length)), later) ∧
      Settled session (before ++ [last]) (announcements before) later := by
  obtain ⟨middle, same, incomplete, serves, settled⟩ :=
    handshake_of_not_agreed accepts settle unsettled greets
  obtain ⟨later, read, received, _⟩ := readFrame_of_serves serves
  refine ⟨later, ?_, ?_, ?_, received.accepts settled.accepts⟩
  · rw [same, awaitSettings_of_incomplete incomplete, bind_of_ok read,
      bind_of_error (settle_of_not_settles broken)]
  · rw [received.events, settled.events, ReadEvent.remaining_remaining, ← List.length_append,
      ← Frame.encodeAll_append]
  · rw [received.written, settled.written]
    exact List.append_nil _

/-- The end of the stream is reported if it comes before the settings of both sides hold. -/
theorem handshake_of_runsOut (accepts : session.stream.Accepts)
    (settle : ∀ frame ∈ frames, Settles frame) (unsettled : ¬ Agreed frames)
    (greets : Greets session frames) (runsOut : RunsOut session frames) :
    ∃ failure later, handshake session = (.error (.io failure), later) ∧
      failure.kind = .unexpectedEof ∧
      later.stream.written = opening session ++
        Frame.encodeAll (List.replicate (announcements frames) Frame.settingsAck) := by
  rw [← List.append_nil frames] at greets
  obtain ⟨middle, same, incomplete, _, settled⟩ :=
    handshake_of_not_agreed accepts settle unsettled greets
  obtain ⟨closes, error, refused⟩ := runsOut
  rw [← settled.events, ← settled.written] at closes refused
  obtain ⟨failure, later, read, eof, written⟩ := readFrame_of_closes closes refused
  refine ⟨failure, later, ?_, eof, written.trans settled.written⟩
  rw [same, awaitSettings_of_incomplete incomplete, bind_of_error read]

/-- The first number of frames after which something holds is one more than a number after which it
does not. -/
theorem exists_last_of_isLeast {number : Nat}
    (least : IsLeast {count | Agreed (frames.take count)} number) :
    ∃ before last, frames.take number = before ++ [last] ∧ ¬ Agreed before := by
  cases number with
  | zero =>
    obtain ⟨⟨_, member, _⟩, _⟩ := least.1
    cases member
  | succ number =>
    have unsettled : ¬ Agreed (frames.take number) := fun agreed =>
      absurd (least.2 agreed) (Nat.not_succ_le_self number)
    cases found : frames[number]? with
    | none =>
      have same : frames.take (number + 1) = frames.take number := by
        rw [List.take_add_one, found]
        exact List.append_nil _
      have agreed : Agreed (frames.take (number + 1)) := least.1
      rw [same] at agreed
      exact absurd agreed unsettled
    | some last =>
      refine ⟨_, last, ?_, unsettled⟩
      rw [List.take_add_one, found]
      rfl

/-- On a stream that accepts everything, a session is opened by reading frames up to the first by
which settings of the other side were seen and an acknowledgement, whichever came first and whatever
else came; it reads no other frame. It writes the preface, its settings, and an acknowledgement for
every frame that announced settings, and nothing else. If it meets settings of a length that is not
a whole number of settings before, it reports this length, after acknowledging those before them.
If the stream ends before, the end of the stream is reported. -/
theorem handshake_settles (session : Session) (accepts : session.stream.Accepts)
    (frames : List Frame) :
    (∀ number, IsLeast {count | Agreed (frames.take count)} number →
      (∀ frame ∈ frames.take number, Settles frame) → Greets session (frames.take number) →
        ∃ later, handshake session = (.ok (), later) ∧
          Settled session (frames.take number) (announcements (frames.take number)) later) ∧
    (∀ before last, before ++ [last] <+: frames → ¬ Agreed before →
      (∀ frame ∈ before, Settles frame) → ¬ Settles last → Greets session (before ++ [last]) →
        ∃ later, handshake session =
            (.error (.frame (.invalidSettings last.payload.length)), later) ∧
          Settled session (before ++ [last]) (announcements before) later) ∧
    (¬ Agreed frames → (∀ frame ∈ frames, Settles frame) → Greets session frames →
      RunsOut session frames →
        ∃ failure later, handshake session = (.error (.io failure), later) ∧
          failure.kind = .unexpectedEof ∧
          later.stream.written = opening session ++
            Frame.encodeAll (List.replicate (announcements frames) Frame.settingsAck)) := by
  refine ⟨fun number least settle greets => ?_, fun before last _ unsettled settle broken greets =>
    handshake_of_not_settles accepts settle unsettled broken greets,
    fun unsettled settle greets runsOut =>
      handshake_of_runsOut accepts settle unsettled greets runsOut⟩
  obtain ⟨before, last, parts, unsettled⟩ := exists_last_of_isLeast least
  have agreed : Agreed (frames.take number) := least.1
  rw [parts] at settle greets agreed ⊢
  exact handshake_of_agreed accepts settle unsettled agreed greets

/-- Settings of the other side. -/
def peerSettings : Frame := Frame.settings [⟨3, 100⟩]

/-- Settings of half a length. -/
def brokenSettings : Frame := ⟨.settings, 0, 0, [0, 1, 2]⟩

/-- A frame that neither announces nor acknowledges settings. -/
def pingFrame : Frame := ⟨.ping, 0, 0, [1, 2, 3, 4, 5, 6, 7, 8]⟩

/-- A session with a setting, on which settings of the other side arrive, and other frames once the
settings are acknowledged. -/
def settlingSession (others : List Frame) : Session :=
  new ⟨[⟨4, 65536⟩], 16384⟩
    (Stream.ofEvents [.arrive (Frame.encodeAll [pingFrame, peerSettings]),
      .wait fun written => decide (48 ≤ written.length), .arrive (Frame.encodeAll others)]) .silent

theorem handshake_settles_settlingSession :
    let opening := Frame.preface ++ [0, 0, 6, 4, 0, 0, 0, 0, 0] ++ [0, 4, 0, 1, 0, 0]
    (∃ later, handshake (settlingSession [Frame.settings [], Frame.settingsAck, pingFrame]) =
        (.ok (), later) ∧
      later.stream.events = [.arrive pingFrame.encode] ∧
      later.stream.written = opening ++ Frame.settingsAck.encode ++ Frame.settingsAck.encode) ∧
    (∃ later, handshake (settlingSession [brokenSettings]) =
        (.error (.frame (.invalidSettings 3)), later) ∧
      later.stream.written = opening ++ Frame.settingsAck.encode) ∧
    ∃ failure later, handshake (settlingSession []) = (.error (.io failure), later) ∧
      failure.kind = .unexpectedEof := by
  intro opening
  have accepts (others : List Frame) : (settlingSession others).stream.Accepts :=
    ⟨fun _ member => (nomatch member), rfl, rfl⟩
  have least : IsLeast {count | Agreed ([pingFrame, peerSettings, Frame.settings [],
      Frame.settingsAck, pingFrame].take count)} 4 := by
    refine ⟨show Agreed _ by decide, fun count agreed => ?_⟩
    by_contra few
    have early : count ≤ 3 := by omega
    obtain ⟨rest, same⟩ : _ <+: [pingFrame, peerSettings, Frame.settings [], Frame.settingsAck,
      pingFrame].take 3 := List.take_prefix_take_left early
    exact absurd (same ▸ Agreed.append agreed rest) (by decide)
  obtain ⟨later, opened, settled⟩ := (handshake_settles
    (settlingSession [Frame.settings [], Frame.settingsAck, pingFrame]) (accepts _) _).1 4 least
    (by decide) ⟨⟨_, rfl⟩, ⟨_, rfl⟩, ⟨_, rfl⟩, ⟨_, rfl⟩, trivial⟩
  obtain ⟨refusing, refused, settledToo⟩ := (handshake_settles (settlingSession [brokenSettings])
    (accepts _) _).2.1 [pingFrame, peerSettings] brokenSettings List.prefix_rfl (by decide)
    (by decide) (by decide) ⟨⟨_, rfl⟩, ⟨_, rfl⟩, ⟨_, rfl⟩, trivial⟩
  obtain ⟨failure, last, ended, eof, _⟩ := (handshake_settles (settlingSession []) (accepts _)
    [pingFrame, peerSettings]).2.2 (by decide) (by decide) ⟨⟨_, rfl⟩, ⟨_, rfl⟩, trivial⟩
    ⟨⟨rfl, trivial⟩, _, rfl⟩
  exact ⟨⟨later, opened, settled.events, settled.written⟩, ⟨refusing, refused, settledToo.written⟩,
    failure, last, ended, eof⟩

end WebFetch.Session
