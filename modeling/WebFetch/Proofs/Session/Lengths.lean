/-
This file is about the frames that a session writes before it awaits an answer, on a stream that
accepts everything. Sending a request writes frames that tell their lengths, or reports a length
that no frame can tell and writes nothing. Opening a session writes the preface, the settings and
acknowledgements, whatever the settings are: the frame that carries them is not checked, so it tells
its length only if the settings fit into a frame.
-/

import WebFetch.Proofs.Frame.Settings
import WebFetch.Proofs.Session.Request
import WebFetch.Proofs.Session.Settling

namespace WebFetch.Session

variable {First Result : Type} {kind : Frame → Prop}

/-! ### Actions that write frames of a kind -/

/-- Whether a session accepts everything and has written frames of a kind since it was another. -/
structure Extends (kind : Frame → Prop) (session later : Session) : Prop where
  accepts : later.stream.Accepts
  written : ∃ frames, (∀ frame ∈ frames, kind frame) ∧
    later.stream.written = session.stream.written ++ Frame.encodeAll frames

/-- Whether an action writes nothing but frames of a kind on a stream that accepts everything. -/
def WritesOnly (kind : Frame → Prop) (action : Action Result) : Prop :=
  ∀ session, session.stream.Accepts → Extends kind session (action session).2

theorem Extends.of_written {session later : Session} (accepts : later.stream.Accepts)
    (same : later.stream.written = session.stream.written) : Extends kind session later :=
  ⟨accepts, [], fun _ member => (nomatch member), same.trans (List.append_nil _).symm⟩

theorem Extends.trans {session middle later : Session} (first : Extends kind session middle)
    (second : Extends kind middle later) : Extends kind session later := by
  obtain ⟨frames, frameKinds, written⟩ := first.written
  obtain ⟨others, otherKinds, laterWritten⟩ := second.written
  refine ⟨second.accepts, frames ++ others, fun frame member => ?_, ?_⟩
  · exact (List.mem_append.mp member).elim (frameKinds frame) (otherKinds frame)
  · rw [laterWritten, written, List.append_assoc, Frame.encodeAll_append]

/-- What an action writes is followed by what the next one writes, if there is a next one. -/
theorem Extends.bind {first : Action First} {next : First → Action Result} {session : Session}
    (firstExtends : Extends kind session (first session).2)
    (nextExtends : ∀ result middle, first session = (.ok result, middle) →
      middle.stream.Accepts → Extends kind middle (next result middle).2) :
    Extends kind session ((first >>= next) session).2 := by
  cases found : first session with
  | mk result middle =>
    rw [found] at firstExtends
    cases result with
    | error error =>
      rw [bind_of_error found]
      exact firstExtends
    | ok result =>
      rw [bind_of_ok found]
      exact firstExtends.trans (nextExtends result middle found firstExtends.accepts)

theorem WritesOnly.bind {first : Action First} {next : First → Action Result}
    (firstWrites : WritesOnly kind first) (nextWrites : ∀ result, WritesOnly kind (next result)) :
    WritesOnly kind (first >>= next) :=
  fun session accepts => (firstWrites session accepts).bind fun result middle _ middleAccepts =>
    nextWrites result middle middleAccepts

theorem writesOnly_yieldOf (result : Except SessionError Result) :
    WritesOnly kind (yieldOf result) :=
  fun _ accepts => .of_written accepts rfl

theorem writesOnly_pure (result : Result) : WritesOnly kind (pure result : Action Result) :=
  writesOnly_yieldOf (.ok result)

theorem writesOnly_report (level : Level) (message : String) (details : List Detail) :
    WritesOnly kind (report level message details) :=
  fun _ accepts => .of_written accepts rfl

theorem writesOnly_reportExpected (level : Level) (message : String) (details : List Detail) :
    WritesOnly kind (reportExpected level message details) :=
  fun _ accepts => .of_written accepts rfl

theorem writesOnly_forM {Element : Type} {step : Element → Action Unit}
    (writes : ∀ element, WritesOnly kind (step element)) (elements : List Element) :
    WritesOnly kind (elements.forM step) := by
  induction elements with
  | nil => exact writesOnly_pure ()
  | cons element elements inductionHypothesis =>
    exact (writes element).bind fun _ => inductionHypothesis

theorem writesOnly_readOctets (needed : Nat) :
    WritesOnly kind (onStream (Stream.readExact needed)) := by
  intro session accepts
  obtain ⟨laterAccepts, same⟩ := Stream.readExact_of_accepts accepts needed
  rw [onStream_eq]
  exact .of_written laterAccepts same

theorem writesOnly_readFrame : WritesOnly kind readFrame :=
  ((writesOnly_readOctets _).bind fun _ => writesOnly_yieldOf _).bind fun _ =>
    (writesOnly_readOctets _).bind fun _ =>
      (writesOnly_reportExpected _ _ _).bind fun _ => writesOnly_pure _

theorem writesOnly_writeFrame {frame : Frame} (holds : kind frame) :
    WritesOnly kind (writeFrame frame) := by
  intro session accepts
  obtain ⟨later, wrote, laterAccepts, written⟩ := writeFrame_of_accepts accepts frame
  rw [wrote]
  refine ⟨laterAccepts, [frame], ?_, ?_⟩
  · exact List.forall_mem_singleton.mpr holds
  · rw [written, Frame.encodeAll_cons]
    exact congrArg (session.stream.written ++ ·) (List.append_nil frame.encode).symm

/-! ### Opening a session -/

/-- A frame of the exchange of settings is answered by an acknowledgement or not at all. -/
theorem writesOnly_settle (agreement : Agreement) (frame : Frame) :
    WritesOnly (· = Frame.settingsAck) (settle agreement frame) := by
  unfold settle
  split
  · exact (writesOnly_report _ _ _).bind fun _ => writesOnly_pure _
  · split
    · exact writesOnly_pure _
    · have accepting : WritesOnly (· = Frame.settingsAck) (acceptSettings frame.payload) :=
        (writesOnly_yieldOf _).bind fun _ =>
          (writesOnly_forM (fun _ => writesOnly_report _ _ _) _).bind fun _ =>
            writesOnly_writeFrame rfl
      exact accepting.bind fun _ => writesOnly_pure _

/-- Waiting for settings writes acknowledgements only. -/
theorem writesOnly_awaitSettings (agreement : Agreement) :
    WritesOnly (· = Frame.settingsAck) (awaitSettings agreement) := by
  intro session accepts
  induction weight : session.stream.weight using Nat.strongRecOn
    generalizing agreement session with
  | ind count inductionHypothesis =>
    subst weight
    cases complete : agreement.complete with
    | true =>
      rw [awaitSettings_of_complete complete]
      exact .of_written accepts rfl
    | false =>
      rw [awaitSettings_of_incomplete complete]
      refine (writesOnly_readFrame session accepts).bind fun frame middle read middleAccepts => ?_
      refine (writesOnly_settle agreement frame middle middleAccepts).bind
        fun next later settled laterAccepts => ?_
      have kept := neverRefills_settle agreement frame middle
      rw [settled] at kept
      exact inductionHypothesis _ (Nat.lt_of_le_of_lt kept (weight_readFrame_lt read)) next later
        laterAccepts rfl

/-- Opening a session writes the preface, the settings and acknowledgements. -/
theorem exists_written_handshake {session : Session} (accepts : session.stream.Accepts) :
    ∃ acknowledgements, (handshake session).2.stream.written =
      session.stream.written ++ Frame.preface ++
        Frame.encodeAll (Frame.settings session.options.settings ::
          List.replicate acknowledgements Frame.settingsAck) := by
  obtain ⟨opened, same, openedAccepts, _, openedWritten⟩ := handshake_of_accepts accepts
  obtain ⟨_, frames, kinds, written⟩ :=
    writesOnly_awaitSettings ⟨false, false⟩ opened openedAccepts
  refine ⟨frames.length, ?_⟩
  rw [same, written, openedWritten, opening, List.eq_replicate_of_mem kinds,
    List.length_replicate, Frame.encodeAll_cons, List.append_assoc, List.append_assoc]

/-! ### Settings that a frame can hold -/

/-- Whether octets are whole frames of which the first carries settings and the others acknowledge
those of the other side. -/
def Announces (settings : List Setting) (octets : Octets) : Prop :=
  ∃ first others, Frame.parseAll octets = (first :: others, []) ∧
    first.type = .settings ∧ first.has Flag.ack = false ∧
    Frame.parseSettings first.payload = .ok settings ∧
    ∀ other ∈ others, other = Frame.settingsAck

/-- Whether opening a session writes its settings in a frame after the preface, or else reports that
they are too long for one and writes none. -/
def OpensSoundly (session : Session) : Prop :=
  ∃ octets, (handshake session).2.stream.written =
      session.stream.written ++ Frame.preface ++ octets ∧
    (Announces session.options.settings octets ∨
      octets = [] ∧
        ∃ length, (handshake session).1 = .error (.frame (.lengthTooLarge length)))

theorem settings_fits {settings : List Setting} (small : 6 * settings.length < wordLimit24) :
    (Frame.settings settings).Fits :=
  ⟨rfl, Nat.lt_of_le_of_lt (Nat.le_of_eq (Frame.length_payload_settings settings)) small,
    (by decide : (0 : UInt32).toNat < wordLimit31)⟩

/-- Settings that fit into a frame are announced. -/
theorem announces_of_lt {settings : List Setting} (small : 6 * settings.length < wordLimit24)
    (acknowledgements : Nat) :
    Announces settings (Frame.encodeAll (Frame.settings settings ::
      List.replicate acknowledgements Frame.settingsAck)) := by
  have acknowledges : ∀ frame ∈ List.replicate acknowledgements Frame.settingsAck,
      frame = Frame.settingsAck := fun _ member => List.eq_of_mem_replicate member
  have announcing : (0 &&& Flag.ack != 0) = false := by decide
  refine ⟨_, _, Frame.parseAll_encodeAll (List.forall_mem_cons.mpr ⟨settings_fits small, ?_⟩),
    rfl, announcing, Frame.parseSettings_settings settings, acknowledges⟩
  intro frame member
  rw [acknowledges frame member]
  decide

/-- Settings that are announced fit into a frame. -/
theorem lt_of_announces {settings : List Setting} {octets : Octets}
    (announces : Announces settings octets) : 6 * settings.length < wordLimit24 := by
  obtain ⟨first, others, parsed, _, _, carried, _⟩ := announces
  have small := Frame.length_payload_lt_of_parseAll octets first (by
    rw [parsed]
    exact List.mem_cons_self)
  exact Nat.lt_of_le_of_lt (Frame.length_le_of_parseSettings carried) small

/-- A session is opened soundly exactly if its settings fit into a frame. -/
theorem opensSoundly_iff {session : Session} (accepts : session.stream.Accepts) :
    OpensSoundly session ↔ 6 * session.options.settings.length < wordLimit24 := by
  obtain ⟨acknowledgements, written⟩ := exists_written_handshake accepts
  constructor
  · rintro ⟨octets, same, announces | ⟨rfl, _⟩⟩
    · exact lt_of_announces announces
    · -- The frame of the settings is written in any case.
      rw [written, List.append_cancel_left_eq, Frame.encodeAll_cons, Frame.encode] at same
      have empty := congrArg List.length same
      simp only [List.length_append, Frame.length_header, FrameHeader.size, List.length_nil]
        at empty
      omega
  · exact fun small => ⟨_, written, Or.inl (announces_of_lt small acknowledgements)⟩

/-! ### Sending a request -/

/-- The frames of a request tell their lengths and carry its header block, or the length of one that
cannot tell it is reported and nothing is written. -/
theorem sendRequest_of_accepts {session : Session} (accepts : session.stream.Accepts)
    (request : Request) :
    let block := Hpack.encode request.headerList
    let most := max session.options.payloadLimit 1
    (∃ later frames, sendRequest request session = (.ok (), later) ∧
      later.stream.written = session.stream.written ++ Frame.encodeAll frames ∧
      Frame.parseAll (Frame.encodeAll frames) = (frames, []) ∧
      (∀ frame ∈ frames, frame.lengthField = frame.payload.length) ∧
      CarriesBlock most block frames) ∨
    (wordLimit24 ≤ min block.length most ∧
      sendRequest request session =
        (.error (.frame (.lengthTooLarge (min block.length most))), session)) := by
  intro block most
  by_cases small : min block.length most < wordLimit24
  · have built := blockFrames_of_lt small
    have fits := fits_of_blockFrames built
    obtain ⟨later, wrote, _, written⟩ := writeFrames_of_accepts accepts
      (pieceFrames 0 (pieces session.options.payloadLimit block))
    refine Or.inl ⟨later, _, ?_, written, Frame.parseAll_encodeAll fits, fun frame member =>
      frame.lengthField_eq_length_iff.mpr (fits frame member).payload, pieceFrames_carry _ _⟩
    rw [sendRequest, built]
    exact wrote
  · have large := Nat.le_of_not_lt small
    refine Or.inr ⟨large, ?_⟩
    rw [sendRequest, blockFrames_of_le large]

/-! ### What is written -/

/-- On a stream that accepts everything, opening a session writes the preface, one frame with the
settings, and acknowledgements. The settings are the payload of their frame, six octets each, but
its length is told modulo `2 ^ 24`: what is written is frames that carry the settings exactly if the
settings fit into a frame, and otherwise no error is reported either. A request is written as frames
that tell their lengths and carry its header block; if the block needs one that cannot, its length
is reported and nothing is written. -/
theorem written_tells_lengths (session : Session) (accepts : session.stream.Accepts) :
    let settings := session.options.settings
    (∃ acknowledgements, (handshake session).2.stream.written =
      session.stream.written ++ Frame.preface ++
        Frame.encodeAll (Frame.settings settings ::
          List.replicate acknowledgements Frame.settingsAck)) ∧
    Frame.parseSettings (Frame.settings settings).payload = .ok settings ∧
    (Frame.settings settings).payload.length = 6 * settings.length ∧
    (Frame.settings settings).lengthField = 6 * settings.length % 2 ^ 24 ∧
    (OpensSoundly session ↔ 6 * settings.length < 2 ^ 24) ∧
    ∀ request : Request,
      let block := Hpack.encode request.headerList
      let most := max session.options.payloadLimit 1
      (∃ later frames, sendRequest request session = (.ok (), later) ∧
        later.stream.written = session.stream.written ++ Frame.encodeAll frames ∧
        Frame.parseAll (Frame.encodeAll frames) = (frames, []) ∧
        (∀ frame ∈ frames, frame.lengthField = frame.payload.length) ∧
        CarriesBlock most block frames) ∨
      (2 ^ 24 ≤ min block.length most ∧
        sendRequest request session =
          (.error (.frame (.lengthTooLarge (min block.length most))), session)) := by
  intro settings
  have length : (Frame.settings settings).payload.length = 6 * settings.length :=
    Frame.length_payload_settings settings
  refine ⟨exists_written_handshake accepts, Frame.parseSettings_settings settings, length, ?_,
    opensSoundly_iff accepts, sendRequest_of_accepts accepts⟩
  rw [Frame.lengthField_eq, length]
  rfl

/-- A session that announces two settings, to which the other side answers with none of its own and
its acknowledgement. -/
def announcingSession : Session :=
  new ⟨[⟨1, 4096⟩, ⟨4, 65535⟩], 16⟩
    (Stream.ofEvents [.arrive (Frame.encodeAll [Frame.settings [], Frame.settingsAck])]) .silent

theorem written_tells_lengths_announcingSession :
    announcingSession.stream.Accepts ∧
      (Frame.settings announcingSession.options.settings).lengthField = 12 ∧
      OpensSoundly announcingSession ∧
      ∃ later frames, sendRequest splitRequest announcingSession = (.ok (), later) ∧
        later.stream.written = Frame.encodeAll frames ∧
        (∀ frame ∈ frames, frame.lengthField = frame.payload.length) ∧
        CarriesBlock 16 (Hpack.encode splitRequest.headerList) frames := by
  have accepts : announcingSession.stream.Accepts := ⟨fun _ member => (nomatch member), rfl, rfl⟩
  obtain ⟨_, _, _, told, opens, sends⟩ := written_tells_lengths announcingSession accepts
  refine ⟨accepts, told, opens.mpr (by decide), ?_⟩
  rcases sends splitRequest with ⟨later, frames, sent, written, _, tell, carry⟩ | ⟨large, _⟩
  · exact ⟨later, frames, sent, written, tell, carry⟩
  · have small : min (Hpack.encode splitRequest.headerList).length 16 < 2 ^ 24 := by omega
    exact absurd large (Nat.not_le_of_lt small)

/-- A session that announces as many settings as are too many for a frame. -/
def crowdedSession : Session :=
  new ⟨List.replicate 2796203 ⟨0, 0⟩, Frame.defaultPayloadLimit⟩ (Stream.ofEvents []) .silent

theorem not_opensSoundly_crowdedSession :
    crowdedSession.stream.Accepts ∧
      (Frame.settings crowdedSession.options.settings).payload.length = 16777218 ∧
      (Frame.settings crowdedSession.options.settings).lengthField = 2 ∧
      ¬ OpensSoundly crowdedSession := by
  have accepts : crowdedSession.stream.Accepts := ⟨fun _ member => (nomatch member), rfl, rfl⟩
  have count : crowdedSession.options.settings.length = 2796203 := List.length_replicate
  have length : (Frame.settings crowdedSession.options.settings).payload.length = 16777218 := by
    rw [Frame.length_payload_settings, count]
  refine ⟨accepts, length, ?_, ?_⟩
  · rw [Frame.lengthField_eq, length]
    rfl
  · rw [opensSoundly_iff accepts, count]
    decide

end WebFetch.Session
