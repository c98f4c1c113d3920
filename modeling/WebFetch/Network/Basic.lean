/-
This file holds networks: the addresses of names, and what comes of connecting to them. All of it is
a parameter, as is the library that secures connections. A host that is written as an address needs
no look-up, and nothing is waited for in no time at all.
-/

import WebFetch.Address
import WebFetch.Network.Tls

namespace WebFetch

/-- The failure of waiting for no time at all. -/
def IoError.zeroTimeout : IoError :=
  ⟨.invalidInput, "cannot set a 0 duration timeout"⟩

/-- A connection to an address that was reached. -/
structure Socket where
  stream : Stream
  /-- What comes of asking that octets are sent without delay. -/
  sendAtOnce : Except IoError Unit
  /-- What comes of asking that no read waits for more than so many seconds. -/
  bound : Nat → Except IoError Unit

/-- Bounds how long a read waits. -/
def Socket.limitReads (socket : Socket) (seconds : Nat) : Except IoError Unit :=
  if seconds = 0 then .error IoError.zeroTimeout else socket.bound seconds

structure Network where
  /-- The addresses of a name, in the order in which they are to be tried. -/
  lookUp : String → Except IoError (List Address)
  /-- What comes of connecting to a port of an address within so many seconds, after other attempts,
  which are given last first. -/
  reach : List Address → Address → UInt16 → Nat → Except IoError Socket
  tls : TlsLibrary

namespace Network

/-- The addresses of a host, in the order in which they are to be tried. -/
def resolve (network : Network) (host : String) : Except IoError (List Address) :=
  match Address.parse? host.toList with
  | some address => .ok [address]
  | none => network.lookUp host

/-- Connects to a port of an address within a time, after other attempts. -/
def attempt (network : Network) (seconds : Nat) (port : UInt16) (attempts : List Address)
    (address : Address) : Except IoError Socket :=
  if seconds = 0 then .error IoError.zeroTimeout
  else network.reach attempts address port seconds

end Network

end WebFetch
