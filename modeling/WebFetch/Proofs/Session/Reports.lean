/-
This file says that what is reported makes no difference. Two sessions that differ in their journals
only, whatever these accept and expect, do the same in every step: the results and the errors are
the same, and so are the streams and the tables afterwards, from which the next step goes on,
whether or not the last one failed.
-/

import Mathlib.Data.List.Forall2
import WebFetch.Proofs.Frame.Dump
import WebFetch.Proofs.Hpack.Block
import WebFetch.Proofs.Session.Actions
import WebFetch.Session.Exchange

namespace WebFetch.Session

variable {First Result : Type}

/-! ### Sessions that differ in their journals -/

/-- Whether sessions are the same but for their journals. -/
structure Alike (session other : Session) : Prop where
  options : session.options = other.options
  /-- The same octets were written, and the same is left to read. -/
  stream : session.stream = other.stream
  table : session.table = other.table

/-- Whether two runs yield the same and leave sessions that are alike. -/
structure Agree (run other : Except SessionError Result × Session) : Prop where
  result : run.1 = other.1
  session : Alike run.2 other.2

/-- Whether an action does not depend on the journal. -/
def Discreet (action : Action Result) : Prop :=
  ∀ session other, Alike session other → Agree (action session) (action other)

theorem Agree.bind {first : Action First} {next : First → Action Result} {session other : Session}
    (firstAgrees : Agree (first session) (first other))
    (nextAgrees : ∀ result middle otherMiddle, first session = (.ok result, middle) →
      Alike middle otherMiddle → Agree (next result middle) (next result otherMiddle)) :
    Agree ((first >>= next) session) ((first >>= next) other) := by
  obtain ⟨sameResult, alike⟩ := firstAgrees
  cases found : first session with
  | mk result middle =>
    cases otherFound : first other with
    | mk otherResult otherMiddle =>
      rw [found, otherFound] at sameResult alike
      cases sameResult
      cases result with
      | error error =>
        rw [bind_of_error found, bind_of_error otherFound]
        exact ⟨rfl, alike⟩
      | ok result =>
        rw [bind_of_ok found, bind_of_ok otherFound]
        exact nextAgrees result middle otherMiddle found alike

theorem Discreet.bind {first : Action First} {next : First → Action Result}
    (firstDiscreet : Discreet first) (nextDiscreet : ∀ result, Discreet (next result)) :
    Discreet (first >>= next) :=
  fun session other alike => (firstDiscreet session other alike).bind
    fun result middle otherMiddle _ middleAlike =>
      nextDiscreet result middle otherMiddle middleAlike

theorem discreet_yieldOf (result : Except SessionError Result) : Discreet (yieldOf result) :=
  fun _ _ alike => ⟨rfl, alike⟩

theorem discreet_pure (result : Result) : Discreet (pure result : Action Result) :=
  discreet_yieldOf (.ok result)

/-- What is done on the stream does not see the journal. -/
theorem discreet_onStream (step : Stream → Except IoError Result × Stream) :
    Discreet (onStream step) := by
  intro session other alike
  rw [onStream_eq, onStream_eq, alike.stream]
  exact ⟨rfl, alike.options, rfl, alike.table⟩

theorem discreet_report (level : Level) (message : String) (details : List Detail) :
    Discreet (report level message details) :=
  fun _ _ alike => ⟨rfl, alike.options, alike.stream, alike.table⟩

theorem discreet_reportExpected (level : Level) (message : String) (details : List Detail) :
    Discreet (reportExpected level message details) :=
  fun _ _ alike => ⟨rfl, alike.options, alike.stream, alike.table⟩

theorem discreet_forM {Element : Type} {step : Element → Action Unit}
    (discreet : ∀ element, Discreet (step element)) (elements : List Element) :
    Discreet (elements.forM step) := by
  induction elements with
  | nil => exact discreet_pure ()
  | cons element elements inductionHypothesis =>
    exact (discreet element).bind fun _ => inductionHypothesis

/-- A loop does not depend on the journal if no turn of it does, given that the turns after it, for
which less of the script is left, do not. -/
theorem discreet_loop {State : Type} {loop : State → Action Result}
    (turn : ∀ state session other, Alike session other →
      (∀ later middle otherMiddle, middle.stream.weight < session.stream.weight →
        Alike middle otherMiddle → Agree (loop later middle) (loop later otherMiddle)) →
      Agree (loop state session) (loop state other)) (state : State) :
    Discreet (loop state) := by
  intro session other alike
  induction weight : session.stream.weight using Nat.strongRecOn
    generalizing state session other with
  | ind count inductionHypothesis =>
    subst weight
    exact turn state session other alike fun later middle otherMiddle less middleAlike =>
      inductionHypothesis _ less later middle otherMiddle middleAlike rfl

/-! ### Frames -/

theorem discreet_writeFrame (frame : Frame) : Discreet (writeFrame frame) :=
  (discreet_reportExpected _ _ _).bind fun _ =>
    (discreet_onStream _).bind fun _ =>
      (discreet_onStream _).bind fun _ => discreet_report _ _ _

theorem discreet_readFrame : Discreet readFrame :=
  ((discreet_onStream _).bind fun _ => discreet_yieldOf _).bind fun _ =>
    (discreet_onStream _).bind fun _ =>
      (discreet_reportExpected _ _ _).bind fun _ => discreet_pure _

theorem discreet_await (expected : FrameType) : Discreet (await expected) :=
  discreet_readFrame.bind fun _ => discreet_yieldOf _

/-! ### The steps of an exchange -/

theorem discreet_settle (agreement : Agreement) (frame : Frame) :
    Discreet (settle agreement frame) := by
  unfold settle
  split
  · exact (discreet_report _ _ _).bind fun _ => discreet_pure _
  · split
    · exact discreet_pure _
    · have accepting : Discreet (acceptSettings frame.payload) :=
        (discreet_yieldOf _).bind fun _ =>
          (discreet_forM (fun _ => discreet_report _ _ _) _).bind fun _ => discreet_writeFrame _
      exact accepting.bind fun _ => discreet_pure _

theorem discreet_awaitSettings (agreement : Agreement) : Discreet (awaitSettings agreement) := by
  refine discreet_loop (fun agreement session other alike again => ?_) agreement
  cases complete : agreement.complete with
  | true =>
    rw [awaitSettings_of_complete complete]
    exact ⟨rfl, alike⟩
  | false =>
    rw [awaitSettings_of_incomplete complete]
    refine (discreet_readFrame session other alike).bind
      fun frame middle otherMiddle read middleAlike => ?_
    refine (discreet_settle agreement frame middle otherMiddle middleAlike).bind
      fun next later otherLater settled laterAlike => again next later otherLater ?_ laterAlike
    have kept := neverRefills_settle agreement frame middle
    rw [settled] at kept
    exact Nat.lt_of_le_of_lt kept (weight_readFrame_lt read)

theorem discreet_handshake : Discreet handshake := by
  have sending : Discreet sendSettings := by
    intro session other alike
    unfold sendSettings
    rw [alike.options]
    exact discreet_writeFrame _ session other alike
  exact ((discreet_onStream _).bind fun _ => discreet_report _ _ _).bind fun _ =>
    sending.bind fun _ => discreet_awaitSettings _

theorem discreet_sendRequest (request : Request) : Discreet (sendRequest request) := by
  intro session other alike
  unfold sendRequest
  rw [alike.options]
  cases blockFrames other.options.payloadLimit (Hpack.encode request.headerList) with
  | error error => exact ⟨rfl, alike⟩
  | ok frames => exact discreet_forM discreet_writeFrame frames session other alike

theorem discreet_readBlockFrom (pieces : List Octets) (ended : Bool) :
    Discreet (readBlockFrom pieces ended) := by
  refine @discreet_loop _ (List Octets × Bool) (fun state => readBlockFrom state.1 state.2)
    (fun (pieces, ended) session other alike again => ?_) (pieces, ended)
  cases ended with
  | true =>
    simp only [readBlockFrom_of_ended]
    exact ⟨rfl, alike⟩
  | false =>
    simp only [readBlockFrom_of_open]
    exact (discreet_await _ session other alike).bind
      fun frame middle otherMiddle read middleAlike =>
        again (_, _) middle otherMiddle (weight_await_lt read) middleAlike

/-- A block is decoded with the table, whatever is reported of it. -/
theorem discreet_decodeBlock (block : Octets) : Discreet (decodeBlock block) := by
  intro session other alike
  obtain ⟨sameResult, sameTable⟩ := @Hpack.decodeFrom_journal block.length [] other.table
    session.journal other.journal block
  unfold decodeBlock Hpack.decode
  rw [alike.table]
  exact ⟨congrArg (Except.mapError SessionError.hpack) sameResult, alike.options, alike.stream,
    sameTable⟩

theorem discreet_readHeaders : Discreet readHeaders := by
  have tabling : Discreet reportTable :=
    fun _ _ alike => ⟨rfl, alike.options, alike.stream, alike.table⟩
  exact (discreet_await _).bind fun _ => (discreet_yieldOf _).bind fun _ =>
    (discreet_readBlockFrom _ _).bind fun _ => (discreet_decodeBlock _).bind fun _ =>
      tabling.bind fun _ =>
        (discreet_forM (fun _ => discreet_reportExpected _ _ _) _).bind fun _ => discreet_pure _

theorem discreet_allowMore (length : Nat) : Discreet (allowMore length) := by
  unfold allowMore
  split
  · exact discreet_pure _
  · exact (discreet_yieldOf _).bind fun _ => (discreet_writeFrame _).bind fun _ =>
      (discreet_yieldOf _).bind fun _ => discreet_writeFrame _

theorem discreet_readBodyFrom (pieces : List Octets) : Discreet (readBodyFrom pieces) := by
  refine discreet_loop (fun pieces session other alike again => ?_) pieces
  rw [readBodyFrom_eq]
  refine (discreet_await _ session other alike).bind
    fun frame middle otherMiddle read middleAlike => ?_
  unfold takeData
  split
  · exact ⟨rfl, middleAlike⟩
  · split
    · exact ⟨rfl, middleAlike⟩
    · refine (discreet_allowMore _ middle otherMiddle middleAlike).bind
        fun _ later otherLater allowed laterAlike => again _ later otherLater ?_ laterAlike
      have kept := neverRefills_allowMore frame.payload.length middle
      rw [allowed] at kept
      exact Nat.lt_of_le_of_lt kept (weight_await_lt read)

theorem discreet_goAway : Discreet goAway :=
  (discreet_yieldOf _).bind fun _ => discreet_writeFrame _

theorem discreet_exchange (request : Request) : Discreet (exchange request) := by
  refine discreet_handshake.bind fun _ => (discreet_sendRequest request).bind fun _ =>
    discreet_readHeaders.bind fun (headers, ended) => (discreet_yieldOf _).bind fun status => ?_
  have ending (body : Octets) : Discreet (do goAway; return Reply.mk status headers body) :=
    discreet_goAway.bind fun _ => discreet_pure _
  cases ended with
  | true => exact (discreet_pure []).bind ending
  | false => exact (discreet_readBodyFrom []).bind ending

/-! ### Steps one after the other -/

/-- What can be done with a session. -/
inductive Step where
  | exchange (request : Request)
  | handshake
  | sendRequest (request : Request)
  | readHeaders
  | readBody
  | goAway
  deriving DecidableEq

/-- What a step yields. -/
inductive Yield where
  | nothing
  | reply (reply : Reply)
  | headers (headers : List Header) (ended : Bool)
  | body (octets : Octets)
  deriving DecidableEq

def Step.perform : Step → Action Yield
  | .exchange request => do return .reply (← Session.exchange request)
  | .handshake => do
    Session.handshake
    return .nothing
  | .sendRequest request => do
    Session.sendRequest request
    return .nothing
  | .readHeaders => do
    let (headers, ended) ← Session.readHeaders
    return .headers headers ended
  | .readBody => do return .body (← Session.readBody)
  | .goAway => do
    Session.goAway
    return .nothing

/-- What steps yield one after the other, and the session after each. A step that fails does not
keep the next one from being taken. -/
def performAll : List Step → Session → List (Except SessionError Yield × Session)
  | [], _ => []
  | step :: later, session =>
    step.perform session :: performAll later (step.perform session).2

theorem discreet_perform (step : Step) : Discreet step.perform := by
  cases step with
  | exchange request => exact (discreet_exchange request).bind fun _ => discreet_pure _
  | handshake => exact discreet_handshake.bind fun _ => discreet_pure _
  | sendRequest request => exact (discreet_sendRequest request).bind fun _ => discreet_pure _
  | readHeaders => exact discreet_readHeaders.bind fun _ => discreet_pure _
  | readBody => exact (discreet_readBodyFrom []).bind fun _ => discreet_pure _
  | goAway => exact discreet_goAway.bind fun _ => discreet_pure _

/-- Sessions that are alike stay so, whatever steps are taken with them. -/
theorem performAll_agree (steps : List Step) {session other : Session}
    (alike : Alike session other) :
    List.Forall₂ Agree (performAll steps session) (performAll steps other) := by
  induction steps generalizing session other with
  | nil => exact .nil
  | cons step later inductionHypothesis =>
    have agree := discreet_perform step session other alike
    exact .cons agree (inductionHypothesis agree.session)

/-- Whatever two journals accept and expect, the same steps of sessions with the same options on the
same stream yield the same results and errors, and after each of them the same octets were written,
the same is left to read, and the tables are the same. Every frame has a dump, which ends with as
many fields as the payload is long enough for. -/
theorem reports_change_nothing (options : SessionOptions) (stream : Stream)
    (journal other : Journal) (steps : List Step) :
    List.Forall₂ (fun first second => first.1 = second.1 ∧ first.2.stream = second.2.stream ∧
        first.2.stream.written = second.2.stream.written ∧
        first.2.stream.unread = second.2.stream.unread ∧ first.2.table = second.2.table)
      (performAll steps (new options stream journal))
      (performAll steps (new options stream other)) ∧
    ∀ frame : Frame, ∃ before, frame.dump = before ++ String.join frame.details ∧
      frame.details.length = frame.legibleFields := by
  constructor
  · have alike : Alike (new options stream journal) (new options stream other) := ⟨rfl, rfl, rfl⟩
    have agree := performAll_agree steps alike
    refine agree.imp fun first second same => ?_
    have streams := same.session.stream
    exact ⟨same.result, streams, congrArg Stream.written streams, congrArg Stream.unread streams,
      same.session.table⟩
  · intro frame
    obtain ⟨before, dumped⟩ := frame.exists_dump_eq
    exact ⟨before, dumped, frame.length_details⟩

end WebFetch.Session
