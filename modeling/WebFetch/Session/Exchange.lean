/-
This file holds the whole exchange on a session: it is opened, the request is sent, the response
is read, and the connection is ended. It says what each way of giving up an exchange reads like.
-/

import WebFetch.Session.Handshake
import WebFetch.Session.Request
import WebFetch.Session.Response
import WebFetch.Text.Quoted

namespace WebFetch

def SessionError.message : SessionError → String
  | .io error => "i/o error: " ++ error.text
  | .frame error => "frame error: " ++ error.message
  | .hpack error => error.message
  | .unexpectedFrame expected received =>
    "expected a " ++ expected.print ++ " frame, received " ++ received.print
  | .paddedData => "padded DATA frames are not supported"
  | .invalidPadding => "HEADERS frame padding exceeds its payload"
  | .streamReset error => "stream reset by peer: " ++ error.print
  | .goAway lastStream error =>
    "connection closed by peer (last stream " ++ lastStream.toNat.repr ++ "): " ++ error.print
  | .missingStatus => "response has no :status pseudo-header"
  | .invalidStatus value => "invalid :status value " ++ Quoted.encode value

namespace Session

/-- The response to a request. -/
structure Reply where
  status : UInt16
  headers : List Header
  body : Octets
  deriving DecidableEq

/-- Ends the connection after the stream of the request. -/
def goAway : Action Unit := do
  let frame ← yieldOf ((Frame.goAway requestStream ErrorCode.noError).mapError .frame)
  writeFrame frame

/-- Opens the session, sends a request and reads the response, and ends the connection. -/
def exchange (request : Request) : Action Reply := do
  handshake
  sendRequest request
  let (headers, ended) ← readHeaders
  let status ← yieldOf (parseStatus headers)
  let body ← if ended then pure [] else readBody
  goAway
  return ⟨status, headers, body⟩

end Session

end WebFetch
