/-
This file says what fetching is: the options, the answer, and why there is none. Names of header
fields that came in lower case are shown with capital letters.
-/

import WebFetch.Message.Basic
import WebFetch.Network.Connection
import WebFetch.Session.Exchange
import WebFetch.Url.Parser

namespace WebFetch

structure FetchOptions where
  /-- Whether frames are exchanged, and not messages. -/
  frames : Bool
  verifyCertificates : Bool
  logKeys : Bool
  timeouts : Timeouts
  session : SessionOptions
  deriving DecidableEq, Repr

/-- The options that hold where none are given. -/
def FetchOptions.default : FetchOptions where
  frames := false
  verifyCertificates := true
  logKeys := false
  timeouts := ⟨30, 60⟩
  session := SessionOptions.default

/-- What was fetched. -/
structure Answer where
  status : UInt16
  fields : List Field
  body : Octets
  deriving DecidableEq

/-- Why nothing was fetched. -/
inductive FetchError where
  | invalidUrl (error : UrlError)
  | unsupportedScheme (scheme : String)
  | connect (error : ConnectError)
  | io (error : IoError)
  /-- The server did not agree to exchange frames. -/
  | framesNotNegotiated
  | message (error : MessageError)
  | session (error : SessionError)
  /-- Frames are exchanged on secured connections only. -/
  | framesRequireTls
  deriving DecidableEq, Repr

def FetchError.text : FetchError → String
  | .invalidUrl error => "invalid URL: " ++ error.message
  | .unsupportedScheme scheme => "unsupported scheme: " ++ scheme
  | .connect error => error.message
  | .io error => "I/O error: " ++ error.text
  | .framesNotNegotiated => "server did not negotiate h2 via ALPN"
  | .message error => "HTTP/1.1 error: " ++ error.message
  | .session error => "HTTP/2 error: " ++ error.message
  | .framesRequireTls => "HTTP/2 is only supported over https"

namespace Answer

/-- A name with a capital letter after each hyphen, of which one is taken to stand before it. -/
def capitalize (name : List Char) : List Char :=
  List.zipWith (fun before character => if before == '-' then character.toUpper else character)
    ('-' :: name) name

/-- The name of a header field as it is shown. A colon at its beginning is left out. -/
def displayName (name : List Char) : List Char :=
  match name with
  | ':' :: rest => capitalize rest
  | name => capitalize name

/-- The field that shows a header field of a block. -/
def fieldOf (header : Header) : Field :=
  ⟨String.ofList (displayName (Utf8.lossy header.name)), Utf8.lossyText header.value⟩

def ofResponse (response : Response) : Answer :=
  ⟨response.status, response.fields, response.body⟩

/-- The answer that a reply on a session is. The field of the status is left out. -/
def ofReply (reply : Session.Reply) : Answer :=
  ⟨reply.status,
    (reply.headers.filter fun header => header.name != Session.statusName).map fieldOf,
    reply.body⟩

end Answer

end WebFetch
