/-
This file holds servers that follow a script: what they answer and when, how they end a
connection, and what they know of securing it. From a server comes the stream that a client reads
and writes, and from the octets that the client wrote comes the request that the server saw.
-/

import WebFetch.Cut
import WebFetch.Frame.Sequence
import WebFetch.Hpack.Block
import WebFetch.Message.Basic
import WebFetch.Stream.Basic

namespace WebFetch.Simulation

/-- The versions of the protocol that secures connections. -/
inductive TlsVersion where
  | v12
  | v13
  deriving DecidableEq, Repr

def TlsVersion.name : TlsVersion → String
  | .v12 => "TLSv1_2"
  | .v13 => "TLSv1_3"

/-- What a server knows of securing a connection. -/
structure TlsSupport where
  version : TlsVersion
  /-- Whether its certificate comes from an authority that is known. -/
  trusted : Bool
  /-- The protocols it accepts, the preferred first. Without any it accepts all and chooses
  none. -/
  protocols : List String
  /-- Whether it announces that it closes the connection. -/
  announcesClose : Bool
  deriving DecidableEq, Repr

/-- When a server answers, and what. -/
inductive Service where
  /-- Answers the head of a request. -/
  | messages (response : List Octets)
  /-- Sends frames at once and, if there is a response, sends it after a header block. -/
  | frames (opening : List Octets) (response : Option (List Octets))
  /-- Sends octets at once. -/
  | immediate (response : List Octets)
  | silent
  deriving DecidableEq

/-- What reading yields after everything that was sent. -/
inductive Ending where
  | closed
  | reset
  | stalled
  deriving DecidableEq, Repr

/-- A server that follows a script. -/
structure Server where
  tls : Option TlsSupport
  service : Service
  ending : Ending
  /-- The most octets that one read yields, if it is not zero. -/
  readChunk : Nat
  /-- Whether everything fails that a client writes. -/
  refusesOctets : Bool
  deriving DecidableEq

/-- A request as a server saw it. -/
inductive SeenRequest where
  | head (text : String)
  | headers (headers : List Header)
  deriving DecidableEq

namespace Service

/-- The head of a request that octets begin with, with the line that ends it. -/
def requestHead? (written : Octets) : Option Octets :=
  (cut Message.headEnd written).map fun (head, _) => head ++ Message.headEnd

/-- The rest of a header block of which the pieces before are given last first. -/
def continuedBlock? (pieces : List Octets) (ended : Bool) : List Frame → Option Octets
  | [] => if ended then some pieces.reverse.flatten else none
  | frame :: later =>
    if ended then some pieces.reverse.flatten
    else if frame.type = .continuation then
      continuedBlock? (frame.payload :: pieces) (frame.has Flag.endHeaders) later
    else none

/-- The first header block of a sequence, if it is whole. -/
def headerBlock? : List Frame → Option Octets
  | [] => none
  | frame :: later =>
    if frame.type = .headers then
      continuedBlock? [frame.payload] (frame.has Flag.endHeaders) later
    else headerBlock? later

/-- The header block of a request that octets hold after the preface. -/
def requestBlock? (written : Octets) : Option Octets :=
  if Frame.preface.isPrefixOf written then
    headerBlock? (Frame.parseAll (written.drop Frame.preface.length)).1
  else none

/-- A wait for something that never comes. -/
def never : ReadEvent := .wait fun _ => false

/-- What reading yields from a service that ends in some way. -/
def events (service : Service) (ending : List ReadEvent) : List ReadEvent :=
  match service with
  | .messages response =>
    .wait (fun written => (requestHead? written).isSome) :: response.map .arrive ++ ending
  | .frames opening none => opening.map .arrive ++ ending
  | .frames opening (some response) =>
    opening.map .arrive ++ [.wait fun written => (requestBlock? written).isSome] ++
      response.map .arrive ++ ending
  | .immediate response => response.map .arrive ++ ending
  | .silent => [never]

/-- The request that a service saw in octets. -/
def seen? (service : Service) (written : Octets) : Option SeenRequest :=
  match service with
  | .messages _ => (requestHead? written).map fun head => .head (Utf8.lossyText head)
  | .frames _ (some _) => do
    let block ← requestBlock? written
    let table := DynamicTable.empty DynamicTable.defaultMaximum
    let headers ← (Hpack.decode table block Journal.silent).result.toOption
    return .headers headers
  | _ => none

end Service

/-- How reading goes on after everything that was sent. -/
def Ending.events : Ending → List ReadEvent
  | .closed => []
  | .reset => [.fail ⟨.connectionReset, "Connection reset by peer (os error 104)"⟩]
  | .stalled => [Service.never]

/-- What writing fails with when the other side takes nothing. -/
def brokenPipe : IoError := ⟨.brokenPipe, "Broken pipe (os error 32)"⟩

namespace Server

/-- A stream with the events of a server, which takes what is written if the server does. -/
def streamOf (server : Server) (events : List ReadEvent) : Stream :=
  let stream := Stream.ofEvents events
  if server.refusesOctets then
    { stream with writeRoom := some 0, writeFailure := some brokenPipe }
  else stream

/-- The stream of a client that does not secure the connection. A server that expects it to be
secured closes it. -/
def plainStream (server : Server) : Stream :=
  match server.tls with
  | none =>
    { server.streamOf (server.service.events server.ending.events) with
      readChunk := server.readChunk }
  | some _ => server.streamOf [.wait fun written => !written.isEmpty]

/-- What a client that secures the connection reads and writes in the clear. It reads what was sent
at once, and after an announced close nothing more. -/
def secureStream (server : Server) (support : TlsSupport) : Stream :=
  let ending := if support.announcesClose then [] else server.ending.events
  server.streamOf (server.service.events ending)

end Server

end WebFetch.Simulation
