/-
This file holds networks that follow a script: which addresses belong to which hosts, which
addresses cannot be reached and why, and the server that answers at all others. A host may also be
an address in an older spelling: with fewer numbers, of which the last fills what is left, and with
octal or hexadecimal ones.
-/

import WebFetch.Network.Basic
import WebFetch.Simulation.Tls
import WebFetch.Word

namespace WebFetch.Simulation

/-- Why an address cannot be reached. -/
inductive Refusal where
  | refused
  | unreachable
  | timedOut
  deriving DecidableEq, Repr

/-- The failure of connecting to an address that cannot be reached. -/
def Refusal.error : Refusal → IoError
  | .refused => ⟨.connectionRefused, "Connection refused (os error 111)"⟩
  | .unreachable => ⟨.hostUnreachable, "No route to host (os error 113)"⟩
  | .timedOut => ⟨.timedOut, "Connection timed out (os error 110)"⟩

/-! ### Older spellings of addresses -/

namespace LooseAddress

/-- A number in the radix that its beginning tells. -/
def number? (text : List Char) : Option Nat :=
  let read (radix : Nat) (digits : List Char) : Option Nat :=
    if digits.isEmpty then none
    else (Numeral.extend radix wordLimit32 0 digits).toOption
  match text with
  | '0' :: 'x' :: digits => read 16 digits
  | '0' :: 'X' :: digits => read 16 digits
  | '0' :: digits => if digits.isEmpty then some 0 else read 8 digits
  | digits => read 10 digits

/-- The octets of numbers of which all but the last are octets and the last fills what is left. -/
def fill? (room : Nat) : List Nat → Option (List Nat)
  | [] => none
  | [last] =>
    if last < 1 <<< (8 * room) then
      some ((List.range room).reverse.map fun place => last >>> (8 * place) % 256)
    else none
  | value :: rest =>
    if value < 256 ∧ 1 < room then (fill? (room - 1) rest).map (value :: ·) else none

/-- The address of 32 bits that a text writes in one of the older spellings. -/
def parse? (text : List Char) : Option Address := do
  let values ← (split ['.'] text).mapM number?
  let octets ← fill? 4 values
  return .v4 octets

end LooseAddress

/-! ### Networks -/

/-- A network that follows a script. -/
structure Script where
  hosts : List (String × List Address)
  refusals : List (Address × Refusal)
  /-- The server at the addresses that can be reached. -/
  server : Option Server

namespace Script

/-- A network on which nothing can be reached. -/
def empty : Script := ⟨[], [], none⟩

/-- A network of one server, which every address reaches. -/
def ofServer (server : Server) : Script := ⟨[], [], some server⟩

def lookUp (script : Script) (host : String) : Except IoError (List Address) :=
  if host.toList.contains '\x00' then
    .error ⟨.invalidInput, "file name contained an unexpected NUL byte"⟩
  else
    match script.hosts.find? fun (name, _) => name == host with
    | some (_, addresses) => .ok addresses
    | none =>
      match LooseAddress.parse? host.toList with
      | some address => .ok [address]
      | none =>
        .error ⟨.other, "failed to lookup address information: Name or service not known"⟩

/-- The stream of a client, which takes every request that is made of it. -/
def socketOf (server : Server) : Socket := ⟨server.plainStream, .ok (), fun _ => .ok ()⟩

def reach (script : Script) (address : Address) : Except IoError Socket :=
  match script.refusals.find? fun (refused, _) => refused == address with
  | some (_, refusal) => .error refusal.error
  | none =>
    match script.server with
    | none => .error Refusal.refused.error
    | some server => .ok (socketOf server)

def network (script : Script) : Network where
  lookUp := script.lookUp
  reach _ address _ _ := script.reach address
  tls := Tls.library script.server

end Script

end WebFetch.Simulation
