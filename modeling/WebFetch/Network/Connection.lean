/-
This file connects to a host. Its addresses are tried in order until one can be reached, and on
request the connection is secured, which may also settle the protocol that is spoken on it. What
the network saw of this, which addresses were tried and what was written to secure the connection,
is part of the outcome, whether or not there is a connection in the end.
-/

import WebFetch.Journal.Basic
import WebFetch.Network.Basic
import WebFetch.Text.Quoted
import WebFetch.Text.Utf8

namespace WebFetch

/-- Why there is no connection to a host. -/
inductive ConnectError where
  | unresolved (host : String) (error : IoError)
  | noAddress (host : String)
  | invalidServerName (host : String)
  | io (error : IoError)
  | tls (error : TlsError)
  deriving DecidableEq, Repr

def ConnectError.message : ConnectError → String
  | .unresolved host error => "could not resolve " ++ host ++ ": " ++ error.text
  | .noAddress host => "could not resolve no addresses found for " ++ host
  | .invalidServerName host => "invalid server name: " ++ host
  | .io error => "I/O error: " ++ error.text
  | .tls error => "TLS error: " ++ error.text

/-- How many seconds to wait. -/
structure Timeouts where
  connect : Nat
  read : Nat
  deriving DecidableEq, Repr

structure Connection where
  stream : Stream
  /-- What was settled, if the connection is secured. -/
  tls : Option TlsSession

namespace Connection

/-- The protocol that was settled. -/
def protocol? (connection : Connection) : Option Octets :=
  connection.tls.bind TlsSession.protocol

/-! ### Trying addresses -/

/-- What came of trying addresses. -/
structure Dialing where
  result : Except ConnectError Socket
  attempts : List Address
  journal : Journal

/-- The failure when no address could be reached: the last one, if there was any attempt. -/
def unreached (host : String) : Option IoError → ConnectError
  | none => .noAddress host
  | some error => .io error

/-- Tries addresses in order. The attempts before are given last first. A connection on which octets
cannot be sent without delay is given up, and with it the attempts. -/
def dialFrom (network : Network) (seconds : Nat) (host : String) (port : UInt16)
    (attempts : List Address) (failure : Option IoError) (journal : Journal) :
    List Address → Dialing
  | [] => ⟨.error (unreached host failure), attempts.reverse, journal⟩
  | address :: later =>
    let place := Detail.plain "addr" (address.printWithPort port)
    match network.attempt seconds port attempts address with
    | .ok socket =>
      ⟨(socket.sendAtOnce.map fun _ => socket).mapError .io, (address :: attempts).reverse,
        journal.debug .connection "connected" [place]⟩
    | .error error =>
      dialFrom network seconds host port (address :: attempts) (some error)
        (journal.debug .connection "connect failed" [place, .plain "error" error.text]) later

/-- Tries the addresses of a host in order. -/
def dial (network : Network) (seconds : Nat) (host : String) (port : UInt16) (journal : Journal) :
    Dialing :=
  match network.resolve host with
  | .error error => ⟨.error (.unresolved host error), [], journal⟩
  | .ok addresses => dialFrom network seconds host port [] none journal addresses

/-! ### Securing -/

/-- The text of something that may be missing. -/
def printOptional (text : Option String) : String :=
  match text with
  | none => "None"
  | some text => "Some(" ++ text ++ ")"

/-- Reports what was settled. -/
def report (session : TlsSession) (journal : Journal) : Journal :=
  journal.debug .handshake "TLS handshake complete"
    [.plain "version" (printOptional session.version),
      .plain "alpn" (printOptional (session.protocol.map fun protocol =>
        Quoted.encode (Utf8.lossyText protocol)))]

/-- What came of securing a connection. -/
structure Securing where
  result : Except ConnectError Connection
  /-- What was written before the connection was secured. -/
  greeting : Octets
  journal : Journal

/-- Secures a connection to a server of a name over a stream. -/
def secureAs (library : TlsLibrary) (config : TlsConfig) (name : library.Name) (stream : Stream)
    (journal : Journal) : Securing :=
  match library.client config name with
  | .error error => ⟨.error (.tls error), [], journal⟩
  | .ok client =>
    match library.handshake client stream with
    | (.error error, _, stream) => ⟨.error (.io error), stream.written, journal⟩
    | (.ok _, client, stream) =>
      let session := library.session client
      ⟨.ok ⟨library.secured client stream, some session⟩, stream.written, report session journal⟩

/-- Secures a connection to a host over a stream. -/
def secure (library : TlsLibrary) (host : String) (options : TlsOptions) (stream : Stream)
    (journal : Journal) : Securing :=
  match library.config options with
  | .error error => ⟨.error (.tls error), [], journal⟩
  | .ok config =>
    match library.name? host with
    | none => ⟨.error (.invalidServerName host), [], journal⟩
    | some name => secureAs library config name stream journal

/-! ### Connecting -/

/-- Makes a connection of a socket, secured if there are options for it. -/
def wrap (network : Network) (host : String) (tls : Option TlsOptions) (socket : Socket)
    (journal : Journal) : Securing :=
  match tls with
  | none => ⟨.ok ⟨socket.stream, none⟩, [], journal⟩
  | some options => secure network.tls host options socket.stream journal

/-- What came of connecting. -/
structure Opening where
  result : Except ConnectError Connection
  attempts : List Address
  /-- What was written before the connection was secured. -/
  greeting : Octets
  journal : Journal

def connect (network : Network) (host : String) (port : UInt16) (tls : Option TlsOptions)
    (timeouts : Timeouts) (journal : Journal) : Opening :=
  match dial network timeouts.connect host port journal with
  | ⟨.error error, attempts, journal⟩ => ⟨.error error, attempts, [], journal⟩
  | ⟨.ok socket, attempts, journal⟩ =>
    match socket.limitReads timeouts.read with
    | .error error => ⟨.error (.io error), attempts, [], journal⟩
    | .ok _ =>
      let securing := wrap network host tls socket journal
      ⟨securing.result, attempts, securing.greeting, securing.journal⟩

end Connection

end WebFetch
