/-
This file follows an exchange on a session phase by phase. Where the session stands is a phase of
the course of the exchange and the answers that are still due in it; each action of the exchange
takes the session from one such place to the next, or ends the exchange as the course does. The
loops are followed by induction on the script of the stream, which every frame that is read makes
shorter.
-/

import WebFetch.Proofs.Hpack.Block
import WebFetch.Proofs.Session.Conversation

namespace WebFetch.Session

open StreamCall

/-! ### Places -/

/-- Whether a session stands in a phase while answers are due. -/
def StandsAt (plan : Plan) (start : Stream) (due : List Frame × Phase) (session : Session) : Prop :=
  ∃ known sent, Standing plan start known sent session ∧ plan.phase known = due.2 ∧
    plan.output known = sent ++ Frame.encodeAll due.1

section

variable {plan : Plan} {start : Stream} {session : Session} {phase : Phase}

theorem StandsAt.journal {due : List Frame × Phase} (stands : StandsAt plan start due session)
    (journal : Journal) : StandsAt plan start due { session with journal := journal } := by
  obtain ⟨known, sent, standing, same, output⟩ := stands
  exact ⟨known, sent, standing.journal journal, same, output⟩

/-- A place does not depend on the table of the session. -/
theorem StandsAt.table {due : List Frame × Phase} (stands : StandsAt plan start due session)
    (table : DynamicTable) : StandsAt plan start due { session with table := table } := by
  obtain ⟨known, sent, standing, same, output⟩ := stands
  exact ⟨known, sent, ⟨standing.options, standing.reached⟩, same, output⟩

/-- A frame that is due is written. -/
theorem StandsAt.writeFrame {frame : Frame} {more : List Frame}
    (stands : StandsAt plan start (frame :: more, phase) session) (alive : ¬ phase.HasFailed) :
    Leads plan start (Session.writeFrame frame)
      (fun _ later => StandsAt plan start (more, phase) later ∧ later.table = session.table ∧
        later.stream.calls.getLast? = some (.flush (.ok ()))) session := by
  obtain ⟨known, sent, standing, same, output⟩ := stands
  rw [Frame.encodeAll_cons, ← List.append_assoc] at output
  have due : sent ++ frame.encode <+: plan.output known := output ▸ List.prefix_append _ _
  refine (leads_writeFrame standing (same ▸ alive) due).mono fun _ later ⟨standing, rest⟩ => ?_
  exact ⟨⟨known, _, standing, same, output⟩, rest⟩

/-- Frames that are due are written. -/
theorem StandsAt.writeFrames {frames : List Frame}
    (stands : StandsAt plan start (frames, phase) session) (alive : ¬ phase.HasFailed) :
    Leads plan start (Session.writeFrames frames)
      (fun _ later => StandsAt plan start ([], phase) later ∧ later.table = session.table)
      session := by
  obtain ⟨known, sent, standing, same, output⟩ := stands
  have due : sent ++ Frame.encodeAll frames <+: plan.output known := output ▸ List.prefix_rfl
  refine (leads_writeFrames standing (same ▸ alive) due).mono fun _ later ⟨standing, table⟩ => ?_
  exact ⟨⟨known, _, standing, same, by rw [output]; exact (List.append_nil _).symm⟩, table⟩

/-- A frame is read when nothing is due, and leads to what it is answered with. -/
theorem StandsAt.readFrame (stands : StandsAt plan start ([], phase) session)
    (alive : ¬ phase.HasFailed) :
    Leads plan start Session.readFrame
      (fun frame later => StandsAt plan start (plan.next phase frame) later ∧
        frame.payload.length < wordLimit24 ∧ later.table = session.table ∧
        later.stream.weight < session.stream.weight) session := by
  obtain ⟨known, sent, standing, same, output⟩ := stands
  have whole : plan.output known = sent := output.trans (List.append_nil _)
  rw [← whole] at standing
  refine (leads_readFrame standing (same ▸ alive)).mono fun frame later ⟨standing, rest⟩ => ?_
  have small : frame.payload.length < wordLimit24 := by
    obtain ⟨made, _, reached⟩ := standing.reached
    refine allSmall_framesOf made frame ?_
    rw [framesOf, reached.received]
    exact List.mem_append_right _ (List.mem_singleton_self _)
  refine ⟨⟨_, _, standing, ?_, ?_⟩, small, rest⟩
  · rw [plan.phase_concat, same]
  · rw [plan.output_concat, same]

/-- Where the exchange is given up, its error is the one of the course. -/
theorem StandsAt.refuse {Result : Type} {answers : List Frame} {error : SessionError}
    {leadsTo : Result → Session → Prop}
    (stands : StandsAt plan start (answers, .failed error) session) :
    Leads plan start (yieldOf (.error error)) leadsTo session := by
  obtain ⟨known, sent, standing, same, _⟩ := stands
  obtain ⟨made, after, reached⟩ := standing.reached
  refine ⟨made, after, reached.faithful, .refused error reached.succeed ?_⟩
  rw [framesOf, reached.received]
  exact same

/-- Where the exchange is given up, nothing else is done. -/
theorem StandsAt.refuse_bind {First Result : Type} {answers : List Frame} {error : SessionError}
    {next : First → Action Result} {leadsTo : Result → Session → Prop}
    (stands : StandsAt plan start (answers, .failed error) session) :
    Leads plan start (yieldOf (.error error) >>= next) leadsTo session := by
  have refused : Leads plan start (yieldOf (.error error)) (fun (_ : First) _ => False) session :=
    stands.refuse
  exact refused.bind fun _ _ impossible => impossible.elim

/-- A frame of the awaited type is read; another ends the exchange. -/
theorem StandsAt.await {expected : FrameType} (stands : StandsAt plan start ([], phase) session)
    (alive : ¬ phase.HasFailed)
    (refuses : ∀ frame error, requireType expected frame = .error error →
      plan.next phase frame = ([], .failed error)) :
    Leads plan start (Session.await expected)
      (fun frame later => frame.type = expected ∧
        StandsAt plan start (plan.next phase frame) later ∧ frame.payload.length < wordLimit24 ∧
        later.table = session.table ∧ later.stream.weight < session.stream.weight) session := by
  refine (stands.readFrame alive).bind fun frame later ⟨stands, rest⟩ => ?_
  cases required : requireType expected frame with
  | error error =>
    rw [refuses frame error required] at stands
    exact stands.refuse
  | ok found =>
    obtain ⟨rfl, type⟩ := type_of_requireType required
    exact leads_yieldOf_ok ⟨type, stands, rest⟩

/-! ### The settings -/

theorem settled_eq (plan : Plan) (answers : List Frame) (agreement : Agreement) :
    plan.settled answers agreement =
      (answers ++ (plan.settled [] agreement).1, (plan.settled [] agreement).2) := by
  unfold Plan.settled
  split
  · rw [List.nil_append]
  · rw [List.append_nil]

theorem settled_alive (plan : Plan) (answers : List Frame) (agreement : Agreement) :
    ¬ (plan.settled answers agreement).2.HasFailed := by
  unfold Plan.settled
  split <;> exact fun ⟨_, same⟩ => nomatch same

/-- Reporting settings leaves the session where it is. -/
theorem StandsAt.reportSettings {due : List Frame × Phase}
    (stands : StandsAt plan start due session) (settings : List Setting) :
    Leads plan start (settings.forM reportSetting)
      (fun _ later => StandsAt plan start due later ∧ later.table = session.table) session := by
  induction settings generalizing session with
  | nil => exact leads_pure ⟨stands, rfl⟩
  | cons setting settings inductionHypothesis =>
    have first : Leads plan start (reportSetting setting)
        (fun _ later => StandsAt plan start due later ∧ later.table = session.table) session :=
      leads_of_ok rfl ⟨stands.journal _, rfl⟩
    refine first.bind fun _ middle ⟨stands, middleTable⟩ => ?_
    exact (inductionHypothesis stands).mono fun _ later ⟨stands, table⟩ =>
      ⟨stands, table.trans middleTable⟩

/-- Settings are taken and acknowledged, or end the exchange. -/
theorem StandsAt.acceptSettings {payload : Octets} {more : List Frame}
    (stands : StandsAt plan start (match Frame.parseSettings payload with
      | .error error => ([], .failed (.frame error))
      | .ok _ => (Frame.settingsAck :: more, phase)) session)
    (alive : ¬ phase.HasFailed) :
    Leads plan start (Session.acceptSettings payload)
      (fun _ later => StandsAt plan start (more, phase) later ∧ later.table = session.table)
      session := by
  unfold Session.acceptSettings
  cases parsed : Frame.parseSettings payload with
  | error error =>
    rw [parsed] at stands
    exact stands.refuse_bind
  | ok settings =>
    rw [parsed] at stands
    refine Leads.yieldOf_bind ?_
    refine (stands.reportSettings settings).bind fun _ middle ⟨stands, middleTable⟩ => ?_
    exact (stands.writeFrame alive).mono fun _ later ⟨stands, table, _⟩ =>
      ⟨stands, table.trans middleTable⟩

/-- A frame of the exchange of settings is answered, and the agreement is what it makes of it. -/
theorem StandsAt.settle {agreement : Agreement} {frame : Frame}
    (stands : StandsAt plan start (plan.next (.settling agreement) frame) session) :
    Leads plan start (Session.settle agreement frame)
      (fun next later => StandsAt plan start (plan.settled [] next) later ∧
        later.table = session.table) session := by
  rw [Plan.next, settleFrame] at stands
  unfold Session.settle
  by_cases other : frame.type ≠ .settings
  · rw [if_pos other] at stands ⊢
    exact leads_of_ok rfl ⟨stands.journal _, rfl⟩
  · rw [if_neg other] at stands ⊢
    by_cases acknowledgement : frame.has Flag.ack = true
    · rw [if_pos acknowledgement] at stands ⊢
      exact leads_pure ⟨stands, rfl⟩
    · rw [if_neg acknowledgement] at stands ⊢
      have accepted : Leads plan start (Session.acceptSettings frame.payload)
          (fun _ later => StandsAt plan start
            (plan.settled [] { agreement with announced := true }) later ∧
            later.table = session.table) session := by
        refine StandsAt.acceptSettings ?_
          (settled_alive plan [] { agreement with announced := true })
        cases parsed : Frame.parseSettings frame.payload with
        | error error =>
          rw [parsed] at stands
          exact stands
        | ok settings =>
          rw [parsed] at stands
          dsimp only at stands
          rw [settled_eq] at stands
          exact stands
      exact accepted.bind fun _ _ reached => leads_pure reached

/-- The exchange of settings ends when the settings of both sides hold and the request is due. -/
theorem StandsAt.awaitSettings {agreement : Agreement}
    (stands : StandsAt plan start (plan.settled [] agreement) session) :
    Leads plan start (Session.awaitSettings agreement)
      (fun _ later => StandsAt plan start (plan.requestFrames, .heading) later ∧
        later.table = session.table) session := by
  induction weight : session.stream.weight using Nat.strongRecOn generalizing agreement session with
  | ind count inductionHypothesis =>
    subst weight
    cases complete : agreement.complete with
    | true =>
      rw [Plan.settled, if_pos complete, List.nil_append] at stands
      rw [awaitSettings_of_complete complete]
      exact leads_pure ⟨stands, rfl⟩
    | false =>
      have incomplete : ¬ agreement.complete = true := by
        rw [complete]
        exact Bool.false_ne_true
      have alive : ¬ (Phase.settling agreement).HasFailed := fun ⟨_, same⟩ => nomatch same
      rw [Plan.settled, if_neg incomplete] at stands
      rw [awaitSettings_of_incomplete complete]
      refine (stands.readFrame alive).bind fun frame middle ⟨stands, _, middleTable, shorter⟩ => ?_
      refine (stands.settle.shorter (neverRefills_settle agreement frame)).bind
        fun next later ⟨⟨stands, laterTable⟩, kept⟩ => ?_
      have less := Nat.lt_of_le_of_lt kept shorter
      refine (inductionHypothesis _ less stands rfl).mono fun _ last ⟨stands, table⟩ => ?_
      exact ⟨stands, table.trans (laterTable.trans middleTable)⟩

/-- A session is opened with the preface and the settings of the client. -/
theorem leads_handshake (standing : Standing plan start [] [] session) :
    Leads plan start handshake
      (fun _ later => StandsAt plan start (plan.requestFrames, .heading) later ∧
        later.table = session.table) session := by
  have alive : ¬ Phase.start.HasFailed := fun ⟨_, same⟩ => nomatch same
  have due : [] ++ Frame.preface <+: plan.output [] := List.prefix_append _ _
  have opened : Leads plan start sendPreface
      (fun _ later => StandsAt plan start ([Frame.settings plan.options.settings], .start) later ∧
        later.options = plan.options ∧ later.table = session.table) session := by
    refine (leads_writeOctets standing alive due).bind fun _ middle ⟨standing, middleTable⟩ => ?_
    refine (leads_report _ _ _ standing).mono fun _ later ⟨standing, _, table⟩ => ?_
    exact ⟨⟨[], _, standing, rfl, rfl⟩, standing.options, table.trans middleTable⟩
  refine opened.bind fun _ first ⟨stands, options, firstTable⟩ => ?_
  have announced : Leads plan start sendSettings
      (fun _ later => StandsAt plan start ([], .start) later ∧ later.table = first.table)
      first := by
    have sending : sendSettings first =
        Session.writeFrame (Frame.settings plan.options.settings) first := by
      rw [sendSettings, options]
    unfold Leads
    rw [sending]
    exact (stands.writeFrame alive).mono fun _ later ⟨stands, table, _⟩ => ⟨stands, table⟩
  refine announced.bind fun _ second ⟨stands, secondTable⟩ => ?_
  have begun : StandsAt plan start (plan.settled [] ⟨false, false⟩) second := stands
  exact begun.awaitSettings.mono fun _ later ⟨stands, table⟩ =>
    ⟨stands, table.trans (secondTable.trans firstTable)⟩

/-! ### The request -/

/-- The request is sent, if it fits into frames. -/
theorem StandsAt.sendRequest (stands : StandsAt plan start (plan.requestFrames, .heading) session) :
    Leads plan start (Session.sendRequest plan.request)
      (fun _ later => StandsAt plan start ([], .heading) later ∧ later.table = session.table)
      session := by
  have alive : ¬ Phase.heading.HasFailed := fun ⟨_, same⟩ => nomatch same
  have options : session.options = plan.options := by
    obtain ⟨_, _, standing, _⟩ := stands
    exact standing.options
  unfold Leads Session.sendRequest
  rw [options]
  unfold Plan.requestFrames at stands
  cases built : blockFrames plan.options.payloadLimit
      (Hpack.encode plan.request.headerList) with
  | error error =>
    obtain ⟨known, sent, standing, same, _⟩ := stands
    obtain ⟨made, after, reached⟩ := standing.reached
    refine ⟨made, after, reached.faithful, .unsendable error reached.succeed ?_ built⟩
    rw [framesOf, reached.received]
    exact same
  | ok frames =>
    rw [built] at stands
    exact stands.writeFrames alive

/-! ### The header block of the response -/

/-- The frames of the header block are read up to the last. -/
theorem StandsAt.readBlockFrom {ends ended : Bool} {pieces : List Octets}
    (stands : StandsAt plan start (plan.gathered ends pieces ended) session) :
    Leads plan start (Session.readBlockFrom pieces ended)
      (fun block later => StandsAt plan start (plan.headed ends block) later ∧
        later.table = session.table) session := by
  induction weight : session.stream.weight using Nat.strongRecOn
    generalizing pieces ended session with
  | ind count inductionHypothesis =>
    subst weight
    cases ended with
    | true =>
      rw [readBlockFrom_of_ended]
      exact leads_pure ⟨stands, rfl⟩
    | false =>
      have alive : ¬ (Phase.continuing ends pieces).HasFailed := fun ⟨_, same⟩ => nomatch same
      have waiting : StandsAt plan start ([], .continuing ends pieces) session := stands
      rw [readBlockFrom_of_open]
      refine (waiting.await alive fun frame error required => ?_).bind
        fun frame middle ⟨type, stands, _, middleTable, shorter⟩ => ?_
      · rw [Plan.next, required]
      · rw [Plan.next, requireType, if_pos type] at stands
        exact (inductionHypothesis _ shorter stands rfl).mono fun _ last both =>
          ⟨both.1, both.2.trans middleTable⟩

/-- The header block is decoded with the table of the session. -/
theorem StandsAt.decodeBlock {ends : Bool} {block : Octets}
    (stands : StandsAt plan start (plan.headed ends block) session)
    (table : session.table = plan.table) :
    Leads plan start (Session.decodeBlock block)
      (fun headers later => StandsAt plan start (replied ends headers) later) session := by
  have moved := (stands.table (Hpack.decode session.table block session.journal).table).journal
    (Hpack.decode session.table block session.journal).journal
  rw [Plan.headed, Hpack.decode_journal plan.table block .silent session.journal] at moved
  show Leads plan start
    (yieldOf ((Hpack.decode session.table block session.journal).result.mapError .hpack)) _
    { session with
      table := (Hpack.decode session.table block session.journal).table
      journal := (Hpack.decode session.table block session.journal).journal }
  rw [table] at moved ⊢
  cases decoded : (Hpack.decode plan.table block session.journal).result with
  | error error =>
    rw [decoded] at moved
    exact moved.refuse
  | ok headers =>
    rw [decoded] at moved
    exact leads_yieldOf_ok moved

/-- Reporting header fields leaves the session where it is. -/
theorem StandsAt.reportHeaders {due : List Frame × Phase} (stands : StandsAt plan start due session)
    (headers : List Header) :
    Leads plan start (headers.forM reportHeader)
      (fun _ later => StandsAt plan start due later) session := by
  induction headers generalizing session with
  | nil => exact leads_pure stands
  | cons header headers inductionHypothesis =>
    have first : Leads plan start (reportHeader header)
        (fun _ later => StandsAt plan start due later) session :=
      leads_of_ok rfl (stands.journal _)
    exact first.bind fun _ middle stands => inductionHypothesis stands

/-- The header fields of the response are read. -/
theorem StandsAt.readHeaders (stands : StandsAt plan start ([], .heading) session)
    (table : session.table = plan.table) :
    Leads plan start Session.readHeaders
      (fun result later => StandsAt plan start (replied result.2 result.1) later) session := by
  have alive : ¬ Phase.heading.HasFailed := fun ⟨_, same⟩ => nomatch same
  unfold Session.readHeaders
  refine (stands.await alive fun frame error required => ?_).bind
    fun frame begun ⟨type, stands, _, begunTable, _⟩ => ?_
  · rw [Plan.next, required]
  · rw [Plan.next, requireType, if_pos type] at stands
    dsimp only at stands
    cases carried : fragment frame with
    | error error =>
      rw [carried] at stands
      exact stands.refuse_bind
    | ok piece =>
      rw [carried] at stands
      refine Leads.yieldOf_bind ?_
      refine stands.readBlockFrom.bind fun block ended standsTable => ?_
      obtain ⟨stands, endedTable⟩ := standsTable
      refine (stands.decodeBlock (endedTable.trans (begunTable.trans table))).bind
        fun headers decoded stands => ?_
      have reported : Leads plan start reportTable
          (fun _ later => StandsAt plan start
            (replied (frame.has Flag.endStream) headers) later) decoded :=
        leads_of_ok rfl (stands.journal _)
      refine reported.bind fun _ _ stands => ?_
      exact (stands.reportHeaders headers).bind fun _ _ stands => leads_pure stands

/-! ### The body of the response -/

/-- Credit for the octets of a frame can be given. -/
theorem windowUpdate_eq {stream : UInt32} {length : Nat} (small : length < wordLimit24)
    (known : stream = requestStream ∨ stream = 0) :
    Frame.windowUpdate stream (UInt32.ofNat length) = .ok (creditFrame stream length) := by
  have value : (UInt32.ofNat length).toNat = length :=
    UInt32.toNat_ofNat_of_lt' (Nat.lt_trans small (by decide))
  have increment : ¬ Frame.maxIncrement < UInt32.ofNat length := by
    rw [UInt32.lt_iff_toNat_lt, value]
    exact Nat.not_lt_of_lt (Nat.lt_trans small (by decide))
  have streamSmall : ¬ Frame.maxStream < stream := by
    rcases known with rfl | rfl <;> decide
  have payload : ¬ wordLimit24 ≤ (Octets.ofNat 4 length).length := by
    rw [Octets.length_ofNat]
    decide
  rw [Frame.windowUpdate, if_neg increment, Frame.checked, value, if_neg payload,
    if_neg streamSmall, creditFrame]

/-- Giving credit for the octets of a frame writes the frames that give it. -/
theorem allowMore_eq {length : Nat} (small : length < wordLimit24) :
    allowMore length = Session.writeFrames (creditFrames length) := by
  unfold allowMore creditFrames
  by_cases nothing : length = 0
  · rw [if_pos nothing, if_pos nothing]
    rfl
  · rw [if_neg nothing, if_neg nothing]
    dsimp only
    rw [windowUpdate_eq small (Or.inl rfl), windowUpdate_eq small (Or.inr rfl)]
    show (do Session.writeFrame _; Session.writeFrame _) =
      (do Session.writeFrame _; Session.writeFrame _; pure ())
    rw [bind_pure_unit]

/-- Credit that is due is given. -/
theorem StandsAt.allowMore {length : Nat} (small : length < wordLimit24)
    (stands : StandsAt plan start (creditFrames length, phase) session)
    (alive : ¬ phase.HasFailed) :
    Leads plan start (Session.allowMore length)
      (fun _ later => StandsAt plan start ([], phase) later) session := by
  rw [allowMore_eq small]
  exact (stands.writeFrames alive).mono fun _ _ reached => reached.1

/-- The body is read up to the frame that ends the stream. -/
theorem StandsAt.readBodyFrom {status : UInt16} {headers : List Header} {pieces : List Octets}
    (stands : StandsAt plan start ([], .receiving status headers pieces) session) :
    Leads plan start (Session.readBodyFrom pieces)
      (fun body later =>
        StandsAt plan start ([closing], .finished ⟨status, headers, body⟩) later) session := by
  induction weight : session.stream.weight using Nat.strongRecOn generalizing pieces session with
  | ind count inductionHypothesis =>
    subst weight
    have alive (pieces : List Octets) : ¬ (Phase.receiving status headers pieces).HasFailed :=
      fun ⟨_, same⟩ => nomatch same
    rw [readBodyFrom_eq]
    refine (stands.await (alive pieces) fun frame error required => ?_).bind
      fun frame middle ⟨type, stands, small, _, shorter⟩ => ?_
    · rw [Plan.next, required]
    · rw [Plan.next, requireType, if_pos type] at stands
      dsimp only at stands
      unfold takeData
      by_cases padded : frame.has Flag.padded = true
      · rw [if_pos padded] at stands ⊢
        exact stands.refuse
      · rw [if_neg padded] at stands ⊢
        by_cases ends : frame.has Flag.endStream = true
        · rw [if_pos ends] at stands ⊢
          exact leads_pure stands
        · rw [if_neg ends] at stands ⊢
          refine ((stands.allowMore small (alive _)).shorter (neverRefills_allowMore _)).bind
            fun _ later standsKept => ?_
          obtain ⟨stands, kept⟩ := standsKept
          exact inductionHypothesis _ (Nat.lt_of_le_of_lt kept shorter) stands rfl

/-! ### The whole exchange -/

/-- The connection is ended after the stream of the request, without an error. -/
theorem goAway_eq : goAway = Session.writeFrame closing := rfl

/-- An exchange follows its course up to the reply. -/
theorem leads_exchange (standing : Standing plan start [] [] session)
    (table : session.table = plan.table) :
    Leads plan start (exchange plan.request)
      (fun reply later => StandsAt plan start ([], .finished reply) later ∧
        later.stream.calls.getLast? = some (.flush (.ok ()))) session := by
  unfold exchange
  refine (leads_handshake standing).bind fun _ opened ⟨stands, openedTable⟩ => ?_
  refine stands.sendRequest.bind fun _ requested ⟨stands, requestedTable⟩ => ?_
  have tableKept : requested.table = plan.table :=
    requestedTable.trans (openedTable.trans table)
  refine (stands.readHeaders tableKept).bind fun result headed stands => ?_
  obtain ⟨headers, ends⟩ := result
  unfold replied at stands
  dsimp only at stands ⊢
  cases found : parseStatus headers with
  | error error =>
    rw [found] at stands
    exact stands.refuse_bind
  | ok status =>
    rw [found] at stands
    refine Leads.yieldOf_bind ?_
    have close (body : Octets) (received : Session)
        (stands : StandsAt plan start ([closing], .finished ⟨status, headers, body⟩) received) :
        Leads plan start (do goAway; return (⟨status, headers, body⟩ : Reply))
          (fun reply later => StandsAt plan start ([], .finished reply) later ∧
            later.stream.calls.getLast? = some (.flush (.ok ()))) received := by
      have alive : ¬ (Phase.finished ⟨status, headers, body⟩).HasFailed :=
        fun ⟨_, same⟩ => nomatch same
      rw [goAway_eq]
      exact (stands.writeFrame alive).bind fun _ _ ⟨stands, _, last⟩ => leads_pure ⟨stands, last⟩
    cases ends with
    | true => exact close [] headed stands
    | false => exact stands.readBodyFrom.bind close

end

end WebFetch.Session
