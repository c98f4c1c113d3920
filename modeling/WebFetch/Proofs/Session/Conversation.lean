/-
This file connects the calls that are made on a stream with the course of an exchange. Calls are
faithful to the course if at every moment what was sent is the beginning of what the frames received
so far are answered with, and if nothing is read before all of it was sent. Each action on a session
adds calls to faithful ones and says where the exchange stands afterwards, or how it ended.
-/

import WebFetch.Proofs.Session.Actions
import WebFetch.Proofs.Session.Answers
import WebFetch.Proofs.Stream.Calls

namespace WebFetch.Session

open StreamCall

/-! ### Faithful conversations -/

/-- The frames that calls have received whole. -/
def framesOf (calls : List StreamCall) : List Frame := (Frame.parseAll (allReceived calls)).1

/-- Whether an exchange is given up. -/
def Phase.HasFailed (phase : Phase) : Prop := ∃ error, phase = .failed error

/-- Whether calls follow a plan. -/
structure Plan.Faithful (plan : Plan) (calls : List StreamCall) : Prop where
  /-- At every moment, what was sent answers what was received. -/
  sent : ∀ past, past <+: calls → allSent past <+: plan.output (framesOf past)
  /-- No call is made once the exchange is given up. -/
  alive : ∀ past call, past ++ [call] <+: calls → ¬ (plan.phase (framesOf past)).HasFailed
  /-- Nothing is read while there is something to send. -/
  read : ∀ past call, past ++ [call] <+: calls → call.IsRead →
    allSent past = plan.output (framesOf past)

theorem framesOf_append {first : List StreamCall} {known : List Frame}
    (whole : Frame.parseAll (allReceived first) = (known, [])) (second : List StreamCall) :
    framesOf (first ++ second) = known ++ framesOf second := by
  rw [framesOf, allReceived_append, Frame.parseAll_append_of_whole whole]
  rfl

theorem allSmall_framesOf (calls : List StreamCall) : AllSmall (framesOf calls) :=
  Frame.length_payload_lt_of_parseAll _

theorem Plan.faithful_nil (plan : Plan) : plan.Faithful [] := by
  have none {past : List StreamCall} {call : StreamCall} (part : past ++ [call] <+: []) :
      False := by
    rw [List.prefix_nil, List.append_eq_nil_iff] at part
    exact List.cons_ne_nil _ _ part.2
  refine ⟨fun past part => ?_, fun _ _ part => (none part).elim,
    fun _ _ part => (none part).elim⟩
  rw [List.prefix_nil.mp part]
  exact List.nil_prefix

/-- A moment of a conversation is before or after a moment of it. -/
theorem moment_cases {calls more past : List StreamCall} (part : past <+: calls ++ more) :
    past <+: calls ∨ ∃ later, past = calls ++ later ∧ later <+: more := by
  rcases List.prefix_or_prefix_of_prefix part (List.prefix_append calls more) with early | late
  · exact Or.inl early
  · obtain ⟨later, rfl⟩ := late
    exact Or.inr ⟨later, rfl, (List.prefix_append_right_inj calls).mp part⟩

/-- A call of a conversation is made before or after a moment of it. -/
theorem call_cases {calls more past : List StreamCall} {call : StreamCall}
    (part : past ++ [call] <+: calls ++ more) :
    past ++ [call] <+: calls ∨ ∃ later, past = calls ++ later ∧ later ++ [call] <+: more := by
  rcases moment_cases part with early | ⟨later, same, late⟩
  · exact Or.inl early
  · rcases List.eq_nil_or_concat later with rfl | ⟨before, last, rfl⟩
    · rw [same, List.append_nil]
      exact Or.inl List.prefix_rfl
    · rw [List.concat_eq_append] at same late
      rw [← List.append_assoc] at same
      obtain ⟨rfl, sameLast⟩ := List.append_inj' same rfl
      rw [← sameLast] at late
      exact Or.inr ⟨before, rfl, late⟩

/-- Calls that follow a faithful conversation are judged by what was received before. -/
theorem Plan.Faithful.append {plan : Plan} {calls more : List StreamCall}
    (faithful : plan.Faithful calls)
    (sent : ∀ later, later <+: more →
      allSent (calls ++ later) <+: plan.output (framesOf (calls ++ later)))
    (alive : ∀ later call, later ++ [call] <+: more →
      ¬ (plan.phase (framesOf (calls ++ later))).HasFailed)
    (read : ∀ later call, later ++ [call] <+: more → call.IsRead →
      allSent (calls ++ later) = plan.output (framesOf (calls ++ later))) :
    plan.Faithful (calls ++ more) := by
  refine ⟨fun past part => ?_, fun past call part => ?_, fun past call part isRead => ?_⟩
  · rcases moment_cases part with early | ⟨later, rfl, late⟩
    · exact faithful.sent past early
    · exact sent later late
  · rcases call_cases part with early | ⟨later, rfl, late⟩
    · exact faithful.alive past call early
    · exact alive later call late
  · rcases call_cases part with early | ⟨later, rfl, late⟩
    · exact faithful.read past call early isRead
    · exact read later call late isRead

/-! ### Where an exchange stands -/

/-- Whether calls have received frames and sent octets, all of them successfully. -/
structure Plan.Reached (plan : Plan) (known : List Frame) (sent : Octets)
    (calls : List StreamCall) : Prop where
  faithful : plan.Faithful calls
  received : Frame.parseAll (allReceived calls) = (known, [])
  sent : allSent calls = sent
  succeed : AllSucceed calls

/-- How calls end when an exchange fails. -/
inductive Plan.Ending (plan : Plan) (calls : List StreamCall) : SessionError → Prop where
  /-- The last call fails. -/
  | failing (error : IoError) (fails : LastFails calls) : Ending plan calls (.io error)
  /-- What was received cannot be gone on with. -/
  | refused (error : SessionError) (succeed : AllSucceed calls)
      (refusal : plan.phase (framesOf calls) = .failed error) : Ending plan calls error
  /-- The request does not fit into frames. -/
  | unsendable (error : FrameError) (succeed : AllSucceed calls)
      (ready : plan.phase (framesOf calls) = .heading)
      (tooLarge : blockFrames plan.options.payloadLimit (Hpack.encode plan.request.headerList) =
        .error error) : Ending plan calls (.frame error)

/-- Whether a session has come from a stream by calls that received frames and sent octets. -/
structure Standing (plan : Plan) (start : Stream) (known : List Frame) (sent : Octets)
    (session : Session) : Prop where
  options : session.options = plan.options
  reached : ∃ made, start.After made session.stream ∧ plan.Reached known sent made

/-- Whether a session has come from a stream by calls that ended with an error. -/
def EndedWith (plan : Plan) (start : Stream) (error : SessionError) (session : Session) : Prop :=
  ∃ made, start.After made session.stream ∧ plan.Faithful made ∧ plan.Ending made error

/-- Whether an action on a session leads to what is said of its result, or the exchange ends as it
may end. -/
def Leads {Result : Type} (plan : Plan) (start : Stream) (action : Action Result)
    (leadsTo : Result → Session → Prop) (session : Session) : Prop :=
  match action session with
  | (.ok result, later) => leadsTo result later
  | (.error error, later) => EndedWith plan start error later

section

variable {plan : Plan} {start : Stream} {known : List Frame} {sent : Octets} {session : Session}

theorem Standing.journal (standing : Standing plan start known sent session) (journal : Journal) :
    Standing plan start known sent { session with journal := journal } :=
  ⟨standing.options, standing.reached⟩

theorem Leads.bind {First Result : Type} {first : Action First} {next : First → Action Result}
    {between : First → Session → Prop} {leadsTo : Result → Session → Prop}
    (leads : Leads plan start first between session)
    (after : ∀ result later, between result later → Leads plan start (next result) leadsTo later) :
    Leads plan start (first >>= next) leadsTo session := by
  unfold Leads at leads ⊢
  cases found : first session with
  | mk result later =>
    cases result with
    | ok result =>
      rw [found] at leads
      rw [bind_of_ok found]
      exact after result later leads
    | error error =>
      rw [found] at leads
      rw [bind_of_error found]
      exact leads

theorem Leads.mono {Result : Type} {action : Action Result}
    {leadsTo weaker : Result → Session → Prop} (leads : Leads plan start action leadsTo session)
    (implies : ∀ result later, leadsTo result later → weaker result later) :
    Leads plan start action weaker session := by
  unfold Leads at leads ⊢
  cases found : action session with
  | mk result later =>
    rw [found] at leads
    cases result with
    | ok result => exact implies result later leads
    | error error => exact leads

/-- What does not read leaves the script of the stream as long as it is. -/
theorem Leads.shorter {Result : Type} {action : Action Result}
    {leadsTo : Result → Session → Prop} (never : NeverRefills action)
    (leads : Leads plan start action leadsTo session) :
    Leads plan start action (fun result later => leadsTo result later ∧
      later.stream.weight ≤ session.stream.weight) session := by
  have kept := never session
  unfold Leads at leads ⊢
  cases found : action session with
  | mk result later =>
    rw [found] at leads kept
    cases result with
    | ok result => exact ⟨leads, kept⟩
    | error error => exact leads

/-- What does not touch the stream and the options leads on. -/
theorem leads_of_ok {Result : Type} {action : Action Result}
    {leadsTo : Result → Session → Prop} {result : Result} {later : Session}
    (done : action session = (.ok result, later)) (reached : leadsTo result later) :
    Leads plan start action leadsTo session := by
  unfold Leads
  rw [done]
  exact reached

theorem leads_pure {Result : Type} {result : Result} {leadsTo : Result → Session → Prop}
    (reached : leadsTo result session) :
    Leads plan start (pure result : Action Result) leadsTo session :=
  leads_of_ok rfl reached

theorem leads_yieldOf_ok {Result : Type} {result : Result} {leadsTo : Result → Session → Prop}
    (reached : leadsTo result session) :
    Leads plan start (yieldOf (.ok result)) leadsTo session :=
  leads_of_ok rfl reached

theorem Leads.yieldOf_bind {First Result : Type} {first : First} {next : First → Action Result}
    {leadsTo : Result → Session → Prop} (leads : Leads plan start (next first) leadsTo session) :
    Leads plan start (yieldOf (.ok first) >>= next) leadsTo session :=
  leads

theorem leads_report (level : Level) (message : String) (details : List Detail)
    (standing : Standing plan start known sent session) :
    Leads plan start (report level message details)
      (fun _ later => Standing plan start known sent later ∧ later.stream = session.stream ∧
        later.table = session.table) session :=
  leads_of_ok rfl ⟨standing.journal _, rfl, rfl⟩

theorem leads_reportExpected (level : Level) (message : String) (details : List Detail)
    (standing : Standing plan start known sent session) :
    Leads plan start (reportExpected level message details)
      (fun _ later => Standing plan start known sent later ∧ later.stream = session.stream ∧
        later.table = session.table) session :=
  leads_of_ok rfl ⟨standing.journal _, rfl, rfl⟩

/-! ### Writing -/

/-- Calls that read nothing and send a part of what is to be sent are faithful. -/
theorem Plan.Reached.faithful_append {calls more : List StreamCall} {octets : Octets}
    (reached : plan.Reached known sent calls) (alive : ¬ (plan.phase known).HasFailed)
    (due : sent ++ octets <+: plan.output known) (noRead : ∀ call ∈ more, ¬ call.IsRead)
    (part : allSent more <+: octets) : plan.Faithful (calls ++ more) := by
  have frames {later : List StreamCall} (before : later <+: more) :
      framesOf (calls ++ later) = known := by
    have nothing : allReceived later = [] :=
      allReceived_eq_nil fun call member => noRead call (before.subset member)
    rw [framesOf_append reached.received, framesOf, nothing, Frame.parseAll_nil, List.append_nil]
  have beforeCall {later : List StreamCall} {call : StreamCall}
      (before : later ++ [call] <+: more) : later <+: more :=
    (List.prefix_append later [call]).trans before
  refine reached.faithful.append (fun later before => ?_) (fun later call before => ?_)
    (fun later call before isRead => ?_)
  · rw [frames before, allSent_append, reached.sent]
    refine List.IsPrefix.trans ?_ due
    exact (List.prefix_append_right_inj sent).mpr ((allSent_of_isPrefix before).trans part)
  · rw [frames (beforeCall before)]
    exact alive
  · exact absurd isRead (noRead call (before.subset (List.mem_append_right _ List.mem_cons_self)))

/-- Calls that read nothing add to what was sent. -/
theorem Plan.Reached.write {calls more : List StreamCall} {octets : Octets}
    (reached : plan.Reached known sent calls) (faithful : plan.Faithful (calls ++ more))
    (noRead : ∀ call ∈ more, ¬ call.IsRead) (whole : allSent more = octets)
    (succeed : AllSucceed more) : plan.Reached known (sent ++ octets) (calls ++ more) := by
  refine ⟨faithful, ?_, ?_, reached.succeed.append succeed⟩
  · rw [allReceived_append, allReceived_eq_nil noRead, List.append_nil]
    exact reached.received
  · rw [allSent_append, reached.sent, whole]

/-- Octets that are due are written. -/
theorem leads_writeOctets {octets : Octets} (standing : Standing plan start known sent session)
    (alive : ¬ (plan.phase known).HasFailed) (due : sent ++ octets <+: plan.output known) :
    Leads plan start (writeOctets octets)
      (fun _ later => Standing plan start known (sent ++ octets) later ∧
        later.table = session.table) session := by
  obtain ⟨made, after, reached⟩ := standing.reached
  obtain ⟨more, afterMore, noRead, writes⟩ := Stream.exists_after_writeAll octets session.stream
  unfold Leads writeOctets onStream
  cases wrote : session.stream.writeAll octets with
  | mk result stream =>
    rw [wrote] at afterMore writes
    cases result with
    | ok =>
      obtain ⟨whole, succeed⟩ := writes
      have faithful := reached.faithful_append alive due noRead (whole ▸ List.prefix_rfl)
      exact ⟨⟨standing.options, made ++ more, after.trans afterMore,
        reached.write faithful noRead whole succeed⟩, rfl⟩
    | error error =>
      obtain ⟨part, fails⟩ := writes
      exact ⟨made ++ more, after.trans afterMore,
        reached.faithful_append alive due noRead part,
        .failing error (fails.append reached.succeed)⟩

/-- What was written is passed on. -/
theorem leads_flush (standing : Standing plan start known sent session)
    (alive : ¬ (plan.phase known).HasFailed) (due : sent <+: plan.output known) :
    Leads plan start (onStream Stream.flush)
      (fun _ later => Standing plan start known sent later ∧ later.table = session.table ∧
        later.stream.calls.getLast? = some (.flush (.ok ()))) session := by
  obtain ⟨made, after, reached⟩ := standing.reached
  have afterFlush := Stream.after_flush session.stream
  have noRead (result : Except IoError Unit) : ∀ call ∈ [StreamCall.flush result], ¬ call.IsRead :=
    List.forall_mem_singleton.mpr fun ⟨_, same⟩ => nomatch same
  rw [← List.append_nil sent] at due
  have faithful := reached.faithful_append alive due (noRead session.stream.flush.1)
    List.prefix_rfl
  unfold Leads onStream
  cases flushed : session.stream.flush with
  | mk result stream =>
    rw [flushed] at afterFlush faithful
    cases result with
    | ok =>
      have succeed : AllSucceed [.flush (.ok ())] := allSucceed_nil.cons fun fails => fails
      have onward := reached.write faithful (noRead _) rfl succeed
      rw [show allSent [.flush (.ok ())] = [] from rfl, List.append_nil] at onward
      refine ⟨⟨standing.options, _, after.trans afterFlush, onward⟩, rfl, ?_⟩
      show stream.calls.getLast? = _
      rw [afterFlush.calls, List.getLast?_concat]
    | error error =>
      have fails : (StreamCall.flush (.error error)).Fails := True.intro
      exact ⟨_, after.trans afterFlush, faithful,
        .failing error ((lastFails_singleton fails).append reached.succeed)⟩

/-- A frame that is due is written. -/
theorem leads_writeFrame {frame : Frame} (standing : Standing plan start known sent session)
    (alive : ¬ (plan.phase known).HasFailed) (due : sent ++ frame.encode <+: plan.output known) :
    Leads plan start (writeFrame frame)
      (fun _ later => Standing plan start known (sent ++ frame.encode) later ∧
        later.table = session.table ∧
        later.stream.calls.getLast? = some (.flush (.ok ()))) session := by
  refine (leads_reportExpected _ _ _ standing).bind
    fun _ reported ⟨standing, _, reportedTable⟩ => ?_
  refine (leads_writeOctets standing alive due).bind fun _ written ⟨standing, writtenTable⟩ => ?_
  refine (leads_flush standing alive due).bind fun _ flushed ⟨standing, flushedTable, last⟩ => ?_
  refine (leads_report _ _ _ standing).mono fun _ later ⟨standing, stream, table⟩ => ?_
  refine ⟨standing, ?_, stream ▸ last⟩
  rw [table, flushedTable, writtenTable, reportedTable]

/-- Frames that are due are written. -/
theorem leads_writeFrames {frames : List Frame} (standing : Standing plan start known sent session)
    (alive : ¬ (plan.phase known).HasFailed)
    (due : sent ++ Frame.encodeAll frames <+: plan.output known) :
    Leads plan start (writeFrames frames)
      (fun _ later => Standing plan start known (sent ++ Frame.encodeAll frames) later ∧
        later.table = session.table) session := by
  induction frames generalizing sent session with
  | nil =>
    refine leads_pure ⟨?_, rfl⟩
    rw [Frame.encodeAll, List.flatMap_nil, List.append_nil]
    exact standing
  | cons frame frames inductionHypothesis =>
    rw [Frame.encodeAll_cons, ← List.append_assoc] at due ⊢
    refine (leads_writeFrame standing alive ((List.prefix_append _ _).trans due)).bind
      fun _ middle ⟨standing, middleTable, _⟩ => ?_
    refine (inductionHypothesis standing due).mono fun _ later ⟨standing, table⟩ => ?_
    exact ⟨standing, table.trans middleTable⟩

/-! ### Reading -/

/-- Whether calls are reads, each of which is made before a frame is whole. -/
def Awaits (calls : List StreamCall) : Prop :=
  ∀ past call, past ++ [call] <+: calls → call.IsRead ∧ framesOf past = []

theorem framesOf_eq_nil {calls : List StreamCall} {error : FrameError}
    (refused : Frame.parse (allReceived calls) = .error error) : framesOf calls = [] := by
  rw [framesOf, Frame.parseAll_of_error refused]

theorem Awaits.isRead {calls : List StreamCall} (awaits : Awaits calls) :
    ∀ call ∈ calls, call.IsRead := by
  intro call member
  obtain ⟨before, after, rfl⟩ := List.append_of_mem member
  exact (awaits before call ⟨after, List.append_cons before call after ▸ rfl⟩).1

/-- No frame is whole while its header is read. -/
theorem awaits_header {calls : List StreamCall} (reads : Stream.ReadsFor FrameHeader.size calls) :
    Awaits calls := by
  intro past call part
  obtain ⟨isRead, short⟩ := reads past call part
  obtain ⟨error, refused⟩ := Frame.parse_of_lt_size short
  exact ⟨isRead, framesOf_eq_nil refused⟩

/-- No frame is whole while its payload is read. -/
theorem awaits_payload {calls more : List StreamCall} {header : FrameHeader}
    (awaits : Awaits calls) (length : (allReceived calls).length = FrameHeader.size)
    (parsed : FrameHeader.parse (allReceived calls) = .ok header)
    (reads : Stream.ReadsFor header.length.toNat more) : Awaits (calls ++ more) := by
  intro past call part
  rcases call_cases part with early | ⟨later, rfl, late⟩
  · exact awaits past call early
  · obtain ⟨isRead, short⟩ := reads later call late
    have refused : Frame.parse (allReceived (calls ++ later)) = .error .incomplete := by
      rw [allReceived_append, Frame.parse_of_header parsed length,
        FrameHeader.takeFrame_of_lt short]
    exact ⟨isRead, framesOf_eq_nil refused⟩

/-- A frame is read by reads, all of which are made before it is whole. -/
theorem exists_after_readFrame (session : Session) :
    ∃ made, session.stream.After made (readFrame session).2.stream ∧ Awaits made ∧
      (readFrame session).2.options = session.options ∧
      (readFrame session).2.table = session.table ∧
      match (readFrame session).1 with
      | .ok frame => Frame.parseAll (allReceived made) = ([frame], []) ∧ AllSucceed made
      | .error error => (∃ failure, error = .io failure) ∧ LastFails made := by
  obtain ⟨headerCalls, headerAfter, headerReads, headerResult⟩ :=
    Stream.exists_after_readExact FrameHeader.size session.stream
  have headerAwaits := awaits_header headerReads
  cases headerRead : session.stream.readExact FrameHeader.size with
  | mk result headerStream =>
    rw [headerRead] at headerAfter headerResult
    cases result with
    | error error =>
      have failed : readFrame session =
          (.error (.io error), { session with stream := headerStream }) := by
        have step : onStream (Stream.readExact FrameHeader.size) session =
            (.error (.io error), { session with stream := headerStream }) := by
          rw [onStream, headerRead]
        exact bind_of_error (bind_of_error step)
      rw [failed]
      exact ⟨headerCalls, headerAfter, headerAwaits, rfl, rfl, ⟨error, rfl⟩, headerResult.2⟩
    | ok octets =>
      obtain ⟨rfl, length, headerSucceed⟩ := headerResult
      obtain ⟨header, parsed⟩ := FrameHeader.exists_parse length
      have headerFound : readHeader session =
          (.ok header, { session with stream := headerStream }) := by
        rw [readHeader, bind_of_ok (onStream_of_ok headerRead), parsed]
        rfl
      obtain ⟨payloadCalls, payloadAfter, payloadReads, payloadResult⟩ :=
        Stream.exists_after_readExact header.length.toNat headerStream
      have awaits := awaits_payload headerAwaits length parsed payloadReads
      cases payloadRead : headerStream.readExact header.length.toNat with
      | mk result payloadStream =>
        rw [payloadRead] at payloadAfter payloadResult
        cases result with
        | error error =>
          have failed : readFrame session =
              (.error (.io error), { session with stream := payloadStream }) := by
            rw [readFrame, bind_of_ok headerFound]
            refine bind_of_error ?_
            rw [readPayload, onStream, payloadRead]
          rw [failed]
          exact ⟨headerCalls ++ payloadCalls, headerAfter.trans payloadAfter, awaits, rfl, rfl,
            ⟨error, rfl⟩, payloadResult.2.append headerSucceed⟩
        | ok payload =>
          obtain ⟨rfl, payloadLength, payloadSucceed⟩ := payloadResult
          have payloadFound : readPayload header { session with stream := headerStream } =
              (.ok (allReceived payloadCalls), { session with stream := payloadStream }) :=
            onStream_of_ok payloadRead
          have whole : Frame.parse (allReceived (headerCalls ++ payloadCalls)) =
              .ok (header.withPayload (allReceived payloadCalls), []) := by
            rw [allReceived_append, Frame.parse_of_header parsed length,
              FrameHeader.takeFrame_of_eq payloadLength]
          rw [readFrame, bind_of_ok headerFound, bind_of_ok payloadFound]
          refine ⟨headerCalls ++ payloadCalls, headerAfter.trans payloadAfter, awaits, rfl, rfl, ?_,
            headerSucceed.append payloadSucceed⟩
          rw [Frame.parseAll_of_ok whole, Frame.parseAll_nil]

/-- Reads that wait for a frame are faithful if nothing is left to send. -/
theorem Plan.Reached.faithful_awaits {calls more : List StreamCall}
    (reached : plan.Reached known (plan.output known) calls)
    (alive : ¬ (plan.phase known).HasFailed) (awaits : Awaits more) :
    plan.Faithful (calls ++ more) := by
  have sent {later : List StreamCall} (before : later <+: more) :
      allSent (calls ++ later) = plan.output known := by
    rw [allSent_append, reached.sent,
      allSent_eq_nil fun call member => awaits.isRead call (before.subset member), List.append_nil]
  refine reached.faithful.append (fun later before => ?_) (fun later call before => ?_)
    (fun later call before _ => ?_)
  · rw [sent before, framesOf_append reached.received]
    exact plan.output_of_isPrefix (List.prefix_append _ _)
  · rw [framesOf_append reached.received, (awaits later call before).2, List.append_nil]
    exact alive
  · rw [sent ((List.prefix_append _ _).trans before), framesOf_append reached.received,
      (awaits later call before).2, List.append_nil]

/-- A frame is read once everything that is due was sent. -/
theorem leads_readFrame (standing : Standing plan start known (plan.output known) session)
    (alive : ¬ (plan.phase known).HasFailed) :
    Leads plan start readFrame
      (fun frame later => Standing plan start (known ++ [frame]) (plan.output known) later ∧
        later.table = session.table ∧ later.stream.weight < session.stream.weight) session := by
  obtain ⟨made, after, reached⟩ := standing.reached
  obtain ⟨more, afterMore, awaits, options, table, result⟩ := exists_after_readFrame session
  have faithful := reached.faithful_awaits alive awaits
  unfold Leads
  cases read : readFrame session with
  | mk outcome later =>
    rw [read] at afterMore options table result
    cases outcome with
    | ok frame =>
      obtain ⟨received, succeed⟩ := result
      refine ⟨⟨options.trans standing.options, made ++ more, after.trans afterMore, faithful, ?_,
        ?_, reached.succeed.append succeed⟩, table, weight_readFrame_lt read⟩
      · rw [allReceived_append, Frame.parseAll_append_of_whole reached.received, received]
      · rw [allSent_append, reached.sent, allSent_eq_nil awaits.isRead, List.append_nil]
    | error error =>
      obtain ⟨⟨failure, rfl⟩, fails⟩ := result
      exact ⟨made ++ more, after.trans afterMore, faithful,
        .failing failure (fails.append reached.succeed)⟩

end

end WebFetch.Session
