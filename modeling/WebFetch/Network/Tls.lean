/-
This file secures connections. The cryptography is the work of a library, which is a parameter: it
says which names a server may have, makes a client for one of them, and carries on the exchange with
the server. What is asked of the library, in which order, and which errors come of it is settled
here.
-/

import WebFetch.Stream.Basic
import WebFetch.Text.Ascii

namespace WebFetch

/-- Why a connection cannot be secured, as the library for it says. -/
structure TlsError where
  text : String
  deriving DecidableEq, Repr

/-- How a connection is secured. -/
structure TlsOptions where
  /-- Whether the certificate of the server has to be valid. -/
  verifyCertificates : Bool
  /-- Whether secrets are written to a file. -/
  logKeys : Bool
  /-- Whether the protocol of frames is offered. -/
  offerFrames : Bool
  deriving DecidableEq, Repr

/-- The options that hold where none are given. -/
def TlsOptions.default : TlsOptions := ⟨true, false, false⟩

/-- What the library is told of how to secure connections. -/
structure TlsConfig where
  /-- Whether a certificate has to come from an authority that is known. Otherwise any will do. -/
  verifiesCertificates : Bool
  /-- The protocols that are offered, the preferred first. -/
  protocols : List Octets
  writesKeys : Bool
  deriving DecidableEq, Repr

/-- The protocol of frames, as it is named when a connection is secured. -/
def framesProtocol : Octets := Ascii.octets "h2"

def TlsOptions.config (options : TlsOptions) : TlsConfig :=
  ⟨options.verifyCertificates, if options.offerFrames then [framesProtocol] else [],
    options.logKeys⟩

/-- What was settled when a connection was secured. -/
structure TlsSession where
  version : Option String
  protocol : Option Octets
  deriving DecidableEq, Repr

/-- A library that secures connections. -/
structure TlsLibrary where
  /-- The names of servers. -/
  Name : Type
  /-- The states of one end of a connection. -/
  Client : Type
  /-- Whether the versions of the protocol that are safe can be used at all. -/
  versions : Except TlsError Unit
  /-- The name that a text writes, if it is one. -/
  name? : String → Option Name
  client : TlsConfig → Name → Except TlsError Client
  /-- Whether the exchange that comes before everything else is still going on. -/
  isHandshaking : Client → Bool
  /-- Reads and writes as long as the exchange asks for it. -/
  completeIo : Client → Stream → Except IoError Unit × Client × Stream
  session : Client → TlsSession
  /-- What is read and written in the clear, where a stream carries it secured. -/
  secured : Client → Stream → Stream
  /-- If reading and writing succeeded, the exchange is over. -/
  completes : ∀ client stream, (completeIo client stream).1 = .ok () →
    isHandshaking (completeIo client stream).2.1 = false

namespace TlsLibrary

/-- The configuration for options. -/
def config (library : TlsLibrary) (options : TlsOptions) : Except TlsError TlsConfig := do
  library.versions
  return options.config

/-- Carries on the exchange until it is over. -/
def handshake (library : TlsLibrary) (client : library.Client) (stream : Stream) :
    Except IoError Unit × library.Client × Stream :=
  if going : library.isHandshaking client = true then
    match moved : library.completeIo client stream with
    | (.error error, next, later) => (.error error, next, later)
    | (.ok (), next, later) =>
      have : (library.isHandshaking next).toNat < (library.isHandshaking client).toNat := by
        have ended := library.completes client stream (by rw [moved])
        rw [moved] at ended
        rw [ended, going]
        exact Nat.zero_lt_one
      handshake library next later
  else (.ok (), client, stream)
  termination_by (library.isHandshaking client).toNat

end TlsLibrary

end WebFetch
