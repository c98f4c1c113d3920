/-
This file holds a library that secures connections to a server that follows a script. A client sends
the name it asks for and nothing else of weight; what the server knows of securing connections then
settles what comes of it.
-/

import WebFetch.Network.Tls
import WebFetch.Simulation.Server
import WebFetch.Simulation.ServerName

namespace WebFetch.Simulation.Tls

/-- One end of a connection that is being secured. -/
structure Client where
  config : TlsConfig
  name : ServerName
  /-- What was settled, once it is. -/
  session : Option TlsSession

/-- What the first record of a client begins with. -/
def recordMark : UInt8 := 0x16

/-- The first record of a client: the name it asks for, if it is to be sent. -/
def greeting (name : ServerName) : Octets :=
  recordMark :: Utf8.encode (name.sent?.getD "")

/-- The name that a first record asks for. -/
def askedFor? (greeting : Octets) : Option String :=
  match greeting with
  | [] => none
  | _ :: name => if name.isEmpty then none else some (Utf8.lossyText name)

/-- The failure of securing a connection. -/
def failure (text : String) : IoError := ⟨.invalidData, text⟩

/-- How many octets show that a server does not secure connections. -/
def recordHeaderSize : Nat := 5

/-- How securing fails with a server that does not do so. What it sends is no record, and where it
sends too little for one, reading ends the attempt. -/
def refusal (stream : Stream) : IoError × Stream :=
  match stream.readExact recordHeaderSize with
  | (.ok _, stream) => (failure "received corrupt message of type InvalidContentType", stream)
  | (.error error, stream) =>
    (if error = .endOfStream then ⟨.unexpectedEof, "unexpected end of file"⟩ else error, stream)

/-- The protocol that a server chooses among those offered, unless it accepts none of them. -/
def chooseProtocol (accepted offered : List Octets) : Except IoError (Option Octets) :=
  if accepted.isEmpty ∨ offered.isEmpty then .ok none
  else
    match accepted.find? offered.contains with
    | some protocol => .ok (some protocol)
    | none => .error (failure "received fatal alert: NoApplicationProtocol")

/-- What a client settles with a server. -/
def settle (config : TlsConfig) (support : TlsSupport) : Except IoError TlsSession := do
  let protocol ← chooseProtocol (support.protocols.map Utf8.encode) config.protocols
  if config.verifiesCertificates ∧ support.trusted = false then
    .error (failure "invalid peer certificate: UnknownIssuer")
  else .ok ⟨some support.version.name, protocol⟩

/-- Sends the name and settles what there is to settle, unless that was done. -/
def completeIo (support : Option TlsSupport) (client : Client) (stream : Stream) :
    Except IoError Unit × Client × Stream :=
  if client.session.isSome then (.ok (), client, stream)
  else
    match stream.writeAll (greeting client.name), support with
    | (.error error, stream), _ => (.error error, client, stream)
    | (.ok _, stream), none =>
      match refusal stream with
      | (error, stream) => (.error error, client, stream)
    | (.ok _, stream), some support =>
      match settle client.config support with
      | .error error => (.error error, client, stream)
      | .ok session => (.ok (), { client with session := some session }, stream)

/-- What was settled once reading and writing succeeded is there. -/
theorem session_of_completeIo {support : Option TlsSupport} {client : Client} {stream : Stream}
    (completed : (completeIo support client stream).1 = .ok ()) :
    (completeIo support client stream).2.1.session.isSome = true := by
  unfold completeIo at completed ⊢
  split
  case isTrue settled => exact settled
  case isFalse unsettled =>
    rw [if_neg unsettled] at completed
    split at completed
    · cases completed
    · split at completed
      cases completed
    · split at completed
      · cases completed
      · rfl

/-- The library for connections to a server. -/
def library (server : Option Server) : TlsLibrary where
  Name := ServerName
  Client := Client
  versions := .ok ()
  name? := ServerName.ofHost?
  client config name := .ok ⟨config, name, none⟩
  isHandshaking client := client.session.isNone
  completeIo := completeIo (server.bind Server.tls)
  session client := client.session.getD ⟨none, none⟩
  secured _ stream :=
    match server with
    | none => stream
    | some server =>
      match server.tls with
      | none => stream
      | some support => server.secureStream support
  completes client stream completed := by
    have settled := session_of_completeIo completed
    rwa [Option.isNone_eq_false_iff]

end WebFetch.Simulation.Tls
