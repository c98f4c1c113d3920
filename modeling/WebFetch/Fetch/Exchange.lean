/-
This file fetches what a URL names. What cannot be fetched in principle is refused before anything
is sent; then a connection is made, the request is sent as a message or as frames, and what comes
back is the answer. What the network saw is part of the outcome.
-/

import WebFetch.Fetch.Basic
import WebFetch.Message.Receiver

namespace WebFetch.Fetch

structure Outcome where
  result : Except FetchError Answer
  attempts : List Address
  port : UInt16
  /-- What was written before the connection was secured. -/
  greeting : Octets
  /-- What was written on the connection. -/
  sent : Octets
  journal : Journal

/-- The outcome when nothing was sent. -/
def refuse (error : FetchError) (journal : Journal) : Outcome :=
  ⟨.error error, [], 0, [], [], journal⟩

/-! ### What can be fetched -/

/-- How a URL is to be fetched. -/
structure Plan where
  port : UInt16
  tls : Option TlsOptions
  deriving DecidableEq

/-- How connections for a scheme are secured, if at all. Frames are exchanged on secured
connections only. -/
def tlsOptions (scheme : String) (options : FetchOptions) :
    Except FetchError (Option TlsOptions) :=
  if scheme = "https" then
    .ok (some ⟨options.verifyCertificates, options.logKeys, options.frames⟩)
  else if scheme = "http" then
    if options.frames then .error .framesRequireTls else .ok none
  else .error (.unsupportedScheme scheme)

def plan (url : Url) (options : FetchOptions) : Except FetchError Plan := do
  let tls ← tlsOptions url.scheme options
  match url.effectivePort? with
  | none => .error (.unsupportedScheme url.scheme)
  | some port => .ok ⟨port, tls⟩

/-! ### Exchanging -/

/-- What came of an exchange on a connection. -/
structure Exchanged where
  result : Except FetchError Answer
  /-- The stream as it is then. -/
  stream : Stream
  journal : Journal

/-- Sends a request as a message and reads the response. -/
def exchangeMessages (url : Url) (fields : List Field) (stream : Stream) (journal : Journal) :
    Exchanged :=
  let request := Message.request url.target url.authority fields
  let journal := journal.debug .fetch ("HTTP/1.1 request:\n" ++ Utf8.lossyText request) []
  match stream.writeAll request with
  | (.error error, stream) => ⟨.error (.io error), stream, journal⟩
  | (.ok _, stream) =>
    match stream.flush with
    | (.error error, stream) => ⟨.error (.io error), stream, journal⟩
    | (.ok _, stream) =>
      let reception := (Receiver.new Limits.default).receive stream journal
      ⟨(reception.result.map Answer.ofResponse).mapError .message, reception.stream,
        reception.journal⟩

/-- The request for what a URL names, as it is sent in frames. -/
def requestOf (url : Url) (fields : List Field) : Session.Request :=
  ⟨url.scheme, url.authority, url.target,
    fields.map fun field => Header.ofText field.name field.value⟩

/-- Sends a request as frames and reads the reply. -/
def exchangeFrames (url : Url) (fields : List Field) (options : SessionOptions)
    (stream : Stream) (journal : Journal) : Exchanged :=
  match Session.exchange (requestOf url fields) (Session.new options stream journal) with
  | (result, session) =>
    ⟨(result.map Answer.ofReply).mapError .session, session.stream, session.journal⟩

/-- Exchanges a request for an answer on a connection. -/
def exchange (url : Url) (fields : List Field) (options : FetchOptions)
    (connection : Connection) (journal : Journal) : Exchanged :=
  if options.frames then
    if connection.protocol? = some framesProtocol then
      exchangeFrames url fields options.session connection.stream journal
    else ⟨.error .framesNotNegotiated, connection.stream, journal⟩
  else exchangeMessages url fields connection.stream journal

/-! ### Fetching -/

/-- The lines that describe an answer: its status, and its fields in order. -/
def description (answer : Answer) : List String :=
  ("Response: " ++ answer.status.toNat.repr) ::
    answer.fields.map fun field => "  " ++ field.name ++ ": " ++ field.value

/-- Reports an answer, if the journal expects it. -/
def report (answer : Answer) (journal : Journal) : Journal :=
  (description answer).foldl
    (fun journal line => journal.addExpected ⟨.fetch, .debug, line, []⟩) journal

/-- Fetches what a URL names. -/
def fetch (network : Network) (url : Url) (fields : List Field) (options : FetchOptions)
    (journal : Journal) : Outcome :=
  match plan url options with
  | .error error => refuse error journal
  | .ok plan =>
    let opening :=
      Connection.connect network url.host plan.port plan.tls options.timeouts journal
    match opening.result with
    | .error error =>
      ⟨.error (.connect error), opening.attempts, plan.port, opening.greeting, [],
        opening.journal⟩
    | .ok connection =>
      let exchanged := exchange url fields options connection opening.journal
      let journal :=
        match exchanged.result with
        | .ok answer => report answer exchanged.journal
        | .error _ => exchanged.journal
      ⟨exchanged.result, opening.attempts, plan.port, opening.greeting,
        exchanged.stream.written, journal⟩

end WebFetch.Fetch
