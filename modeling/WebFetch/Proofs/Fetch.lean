/-
This file says what an answer is that was fetched, whatever is reported on the way: all of what came
back for the request. A response is complete as its head tells, and the body of a reply goes on to
the frame that ends the stream. What is cut off before that is an error, however much of it arrived.
-/

import WebFetch.Fetch.Exchange
import WebFetch.Proofs.Message.Complete
import WebFetch.Proofs.Message.Offsets
import WebFetch.Proofs.Session.Contribution
import WebFetch.Proofs.Session.Reports

namespace WebFetch

open StreamCall

/-! ### Connections without a journal -/

namespace Connection

/-- Addresses are tried in the same way, whatever is reported. -/
theorem dialFrom_journal (network : Network) (seconds : Nat) (host : String) (port : UInt16)
    (attempts : List Address) (failure : Option IoError) (journal other : Journal)
    (addresses : List Address) :
    (dialFrom network seconds host port attempts failure journal addresses).result =
      (dialFrom network seconds host port attempts failure other addresses).result := by
  induction addresses generalizing attempts failure journal other with
  | nil => rfl
  | cons address later inductionHypothesis =>
    rw [dialFrom, dialFrom]
    cases network.attempt seconds port attempts address with
    | ok socket => rfl
    | error error => exact inductionHypothesis _ _ _ _

theorem dial_journal (network : Network) (seconds : Nat) (host : String) (port : UInt16)
    (journal other : Journal) :
    (dial network seconds host port journal).result =
      (dial network seconds host port other).result := by
  unfold dial
  cases network.resolve host with
  | error error => rfl
  | ok addresses => exact dialFrom_journal _ _ _ _ _ _ _ _ _

theorem secureAs_journal (library : TlsLibrary) (config : TlsConfig) (name : library.Name)
    (stream : Stream) (journal other : Journal) :
    (secureAs library config name stream journal).result =
      (secureAs library config name stream other).result := by
  unfold secureAs
  cases library.client config name with
  | error error => rfl
  | ok client =>
    dsimp only
    split <;> rfl

theorem secure_journal (library : TlsLibrary) (host : String) (options : TlsOptions)
    (stream : Stream) (journal other : Journal) :
    (secure library host options stream journal).result =
      (secure library host options stream other).result := by
  unfold secure
  cases library.config options with
  | error error => rfl
  | ok config =>
    cases library.name? host with
    | none => rfl
    | some name => exact secureAs_journal _ _ _ _ _ _

theorem wrap_journal (network : Network) (host : String) (tls : Option TlsOptions)
    (socket : Socket) (journal other : Journal) :
    (wrap network host tls socket journal).result =
      (wrap network host tls socket other).result := by
  cases tls with
  | none => rfl
  | some options => exact secure_journal _ _ _ _ _ _

/-- The same connection is made, whatever is reported. -/
theorem connect_journal (network : Network) (host : String) (port : UInt16)
    (tls : Option TlsOptions) (timeouts : Timeouts) (journal other : Journal) :
    (connect network host port tls timeouts journal).result =
      (connect network host port tls timeouts other).result := by
  have same := dial_journal network timeouts.connect host port journal other
  unfold connect
  revert same
  match dial network timeouts.connect host port journal,
    dial network timeouts.connect host port other with
  | ⟨.error _, _, _⟩, ⟨_, _, _⟩ =>
    rintro rfl
    rfl
  | ⟨.ok socket, _, _⟩, ⟨_, _, _⟩ =>
    rintro rfl
    dsimp only
    cases socket.limitReads timeouts.read with
    | error error => rfl
    | ok _ => exact wrap_journal network host tls socket _ _

end Connection

namespace Fetch

/-! ### Exchanges without a journal -/

/-- Whether exchanges came to the same but for what was reported. -/
def Exchanged.Agree (exchanged other : Exchanged) : Prop :=
  exchanged.result = other.result ∧ exchanged.stream = other.stream

theorem exchangeMessages_journal (url : Url) (fields : List Field) (stream : Stream)
    (journal other : Journal) :
    (exchangeMessages url fields stream journal).Agree
      (exchangeMessages url fields stream other) := by
  unfold exchangeMessages
  dsimp only
  split
  · exact ⟨rfl, rfl⟩
  · split
    · exact ⟨rfl, rfl⟩
    · obtain ⟨sameResult, sameStream⟩ := Receiver.receive_journal _ _ _ _
      exact ⟨by rw [sameResult], sameStream⟩

theorem result_exchangeFrames (url : Url) (fields : List Field) (options : SessionOptions)
    (stream : Stream) (journal : Journal) :
    (exchangeFrames url fields options stream journal).result =
      ((Session.exchange (requestOf url fields) (Session.new options stream journal)).1.map
        Answer.ofReply).mapError .session :=
  rfl

theorem exchangeFrames_journal (url : Url) (fields : List Field) (options : SessionOptions)
    (stream : Stream) (journal other : Journal) :
    (exchangeFrames url fields options stream journal).Agree
      (exchangeFrames url fields options stream other) := by
  have agree := Session.discreet_exchange (requestOf url fields)
    (Session.new options stream journal) (Session.new options stream other) ⟨rfl, rfl, rfl⟩
  refine ⟨?_, agree.session.stream⟩
  rw [result_exchangeFrames, result_exchangeFrames, agree.result]

theorem exchange_journal (url : Url) (fields : List Field) (options : FetchOptions)
    (connection : Connection) (journal other : Journal) :
    (exchange url fields options connection journal).Agree
      (exchange url fields options connection other) := by
  unfold exchange
  split
  · split
    · exact exchangeFrames_journal _ _ _ _ _ _
    · exact ⟨rfl, rfl⟩
  · exact exchangeMessages_journal _ _ _ _ _

/-! ### Whole answers -/

/-- What an exchange of frames for what a URL names depends on. -/
def framesPlan (url : Url) (fields : List Field) (options : SessionOptions) : Session.Plan :=
  ⟨options, requestOf url fields, DynamicTable.empty DynamicTable.defaultMaximum⟩

/-- Whether an answer is a reply: its status, its body and its header fields, with the names as they
are shown and without the field of the status. -/
structure Shows (answer : Answer) (reply : Session.Reply) : Prop where
  status : answer.status = reply.status
  fields : answer.fields =
    (reply.headers.filter fun header => header.name != Session.statusName).map Answer.fieldOf
  body : answer.body = reply.body

/-- Whether an answer is a response: its status, its body and its fields. -/
structure Repeats (answer : Answer) (response : Response) : Prop where
  status : answer.status = response.status
  fields : answer.fields = response.fields
  body : answer.body = response.body

/-- Whether an answer is all of what calls on a connection brought for it: a reply that frames make
up to the one that ends the stream, or a response that is complete. -/
def IsWhole (url : Url) (fields : List Field) (options : FetchOptions) (calls : List StreamCall)
    (answer : Answer) : Prop :=
  if options.frames then
    ∃ reply taken, Shows answer reply ∧
      (framesPlan url fields options.session).Takes (Session.framesOf calls) taken reply
  else
    ∃ response, Repeats answer response ∧ response.Complete (Closed calls) (allReceived calls)

/-- A message that is answered was written and passed on before the response was received. -/
theorem exists_received_of_exchangeMessages {url : Url} {fields : List Field} {stream : Stream}
    {journal : Journal} {answer : Answer}
    (answered : (exchangeMessages url fields stream journal).result = .ok answer) :
    ∃ writtenTo flushedTo later response,
      stream.writeAll (Message.request url.target url.authority fields) = (.ok (), writtenTo) ∧
      writtenTo.flush = (.ok (), flushedTo) ∧
      ((Receiver.new .default).receive flushedTo later).result = .ok response ∧
      answer = .ofResponse response ∧
      (exchangeMessages url fields stream journal).stream =
        ((Receiver.new .default).receive flushedTo later).stream := by
  unfold exchangeMessages at answered ⊢
  dsimp only at answered ⊢
  match written : stream.writeAll (Message.request url.target url.authority fields) with
  | (.error error, writtenTo) =>
    rw [written] at answered
    cases answered
  | (.ok _, writtenTo) =>
    rw [written] at answered
    dsimp only at answered ⊢
    match flushed : writtenTo.flush with
    | (.error error, flushedTo) =>
      rw [flushed] at answered
      cases answered
    | (.ok _, flushedTo) =>
      rw [flushed] at answered
      obtain ⟨response, received, same⟩ := exists_ok_of_map answered
      exact ⟨writtenTo, flushedTo, _, response, rfl, flushed, received, same, rfl⟩

/-- A response that answers a message is complete in what was received: sending the message receives
nothing. -/
theorem exists_complete_of_exchangeMessages {url : Url} {fields : List Field} {stream : Stream}
    {journal : Journal} {answer : Answer}
    (answered : (exchangeMessages url fields stream journal).result = .ok answer) :
    ∃ made, stream.After made (exchangeMessages url fields stream journal).stream ∧
      ∃ response, Repeats answer response ∧
        response.Complete (Closed made) (allReceived made) := by
  obtain ⟨writtenTo, flushedTo, later, response, written, flushed, received, rfl, last⟩ :=
    exists_received_of_exchangeMessages answered
  obtain ⟨sent, afterSent, noRead, _⟩ :=
    stream.exists_after_writeAll (Message.request url.target url.authority fields)
  have afterFlushed := writtenTo.after_flush
  rw [written] at afterSent
  rw [flushed] at afterFlushed
  obtain ⟨made, afterReceived, complete⟩ :=
    Receiver.exists_complete_of_receive received
  have nothing : allReceived (sent ++ [.flush (.ok ())]) = [] := by
    rw [allReceived_append, allReceived_eq_nil noRead]
    rfl
  rw [last]
  refine ⟨sent ++ [.flush (.ok ())] ++ made,
    (afterSent.trans afterFlushed).trans afterReceived, response, ⟨rfl, rfl, rfl⟩, ?_⟩
  rw [allReceived_append, nothing]
  exact complete.mono fun closed => closed.append _

/-- An answer is all of what the exchange brought. -/
theorem exists_whole_of_exchange {url : Url} {fields : List Field} {options : FetchOptions}
    {connection : Connection} {journal : Journal} {answer : Answer}
    (answered : (exchange url fields options connection journal).result = .ok answer) :
    ∃ made, connection.stream.After made
        (exchange url fields options connection journal).stream ∧
      IsWhole url fields options made answer := by
  unfold exchange at answered ⊢
  unfold IsWhole
  by_cases frames : options.frames = true
  · rw [if_pos frames] at answered ⊢
    by_cases negotiated : connection.protocol? = some framesProtocol
    · rw [if_pos negotiated] at answered ⊢
      obtain ⟨reply, replied, rfl⟩ := exists_ok_of_map answered
      obtain ⟨made, after, finished, _⟩ := Session.exists_finished (Prod.ext replied rfl)
      obtain ⟨taken, takes⟩ := Session.Plan.exists_takes _ finished
      refine ⟨made, after, ?_⟩
      simp only [if_pos frames]
      exact ⟨reply, taken, ⟨rfl, rfl, rfl⟩, takes⟩
    · rw [if_neg negotiated] at answered
      cases answered
  · rw [if_neg frames] at answered ⊢
    simp only [if_neg frames]
    exact exists_complete_of_exchangeMessages answered

/-! ### Sums that fit -/

/-- Receiving a response never makes the program stop: all bodies that are allowed end at an
offset. -/
theorem exchangeMessages_ne_overflow (url : Url) (fields : List Field) (stream : Stream)
    (journal : Journal) :
    (exchangeMessages url fields stream journal).result ≠ .error (.message .overflow) := by
  unfold exchangeMessages
  dsimp only
  split
  · exact nofun
  · split
    · exact nofun
    · intro stopped
      obtain ⟨reason, failed, same⟩ := exists_error_of_map stopped
      cases same
      exact Receiver.receive_ne_overflow (by decide) failed

theorem exchange_ne_overflow (url : Url) (fields : List Field) (options : FetchOptions)
    (connection : Connection) (journal : Journal) :
    (exchange url fields options connection journal).result ≠ .error (.message .overflow) := by
  unfold exchange
  split
  · split
    · intro stopped
      obtain ⟨reason, _, same⟩ := exists_error_of_map stopped
      cases same
    · exact nofun
  · exact exchangeMessages_ne_overflow _ _ _ _

/-! ### Fetching -/

/-- What cannot be fetched is no matter of messages. -/
theorem plan_ne_message (url : Url) (options : FetchOptions) (error : MessageError) :
    plan url options ≠ .error (.message error) := by
  intro failed
  unfold plan at failed
  rcases exists_error_of_bind failed with refused | ⟨tls, _, failed⟩
  · unfold tlsOptions at refused
    split at refused
    · cases refused
    · split at refused
      · split at refused <;> cases refused
      · cases refused
  · split at failed <;> cases failed

/-- Fetching never makes the program stop. -/
theorem fetch_ne_overflow (network : Network) (url : Url) (fields : List Field)
    (options : FetchOptions) (journal : Journal) :
    (fetch network url fields options journal).result ≠ .error (.message .overflow) := by
  unfold fetch
  cases planned : plan url options with
  | error error =>
    intro stopped
    cases stopped
    exact plan_ne_message url options .overflow planned
  | ok plan =>
    dsimp only
    split
    · exact nofun
    · exact exchange_ne_overflow _ _ _ _ _

/-- The result of fetching does not depend on the journal. -/
theorem fetch_journal (network : Network) (url : Url) (fields : List Field)
    (options : FetchOptions) (journal other : Journal) :
    (fetch network url fields options journal).result =
      (fetch network url fields options other).result := by
  unfold fetch
  cases plan url options with
  | error error => rfl
  | ok plan =>
    have same := Connection.connect_journal network url.host plan.port plan.tls options.timeouts
      journal other
    dsimp only
    rw [same]
    split
    · rfl
    · exact (exchange_journal _ _ _ _ _ _).1

/-- Whether an answer came whole over the connection that is opened for what a URL names. -/
def BringsWhole (network : Network) (url : Url) (fields : List Field) (options : FetchOptions)
    (answer : Answer) : Prop :=
  ∃ plan connection made, Fetch.plan url options = .ok plan ∧
    (Connection.connect network url.host plan.port plan.tls options.timeouts .silent).result =
      .ok connection ∧
    connection.stream.After made (exchange url fields options connection .silent).stream ∧
    IsWhole url fields options made answer

/-- What is fetched is whole. -/
theorem bringsWhole_of_fetch {network : Network} {url : Url} {fields : List Field}
    {options : FetchOptions} {journal : Journal} {answer : Answer}
    (fetched : (fetch network url fields options journal).result = .ok answer) :
    BringsWhole network url fields options answer := by
  rw [fetch_journal _ _ _ _ _ .silent] at fetched
  unfold fetch at fetched
  match planned : plan url options with
  | .error error =>
    rw [planned] at fetched
    cases fetched
  | .ok plan =>
    rw [planned] at fetched
    dsimp only at fetched
    match opened : (Connection.connect network url.host plan.port plan.tls options.timeouts
        .silent).result with
    | .error error =>
      rw [opened] at fetched
      cases fetched
    | .ok connection =>
      rw [opened] at fetched
      dsimp only at fetched
      rw [(exchange_journal _ _ _ _ _ .silent).1] at fetched
      obtain ⟨made, after, whole⟩ := exists_whole_of_exchange fetched
      exact ⟨plan, connection, made, planned, opened, after, whole⟩

end Fetch

end WebFetch
