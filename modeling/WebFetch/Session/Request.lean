/-
This file sends a request. Its header fields become one block, which is cut into pieces that one
frame can carry: the first piece begins the block, the others continue it, the last says that it
ends. The request has no body, so its stream ends with the block.
-/

import WebFetch.Session.Basic

namespace WebFetch.Session

structure Request where
  scheme : String
  authority : String
  path : String
  /-- Further header fields. -/
  headers : List Header
  deriving DecidableEq

/-- A header field with its name in lower case. -/
def lowerName (header : Header) : Header :=
  { header with name := header.name.map Ascii.lowerOctet }

/-- The header fields of a request: those that every request has, and the further ones. -/
def Request.headerList (request : Request) : List Header :=
  [Header.ofText ":method" "GET", Header.ofText ":scheme" request.scheme,
    Header.ofText ":path" request.path, Header.ofText ":authority" request.authority] ++
    request.headers.map lowerName

/-! ### Cutting a block into frames -/

/-- Cuts octets into pieces of one octet more than `size`, of which only the last may be shorter.
The pieces found before are given last first. -/
def piecesFrom (size : Nat) (found : List Octets) (octets : Octets) : List Octets :=
  match remains : octets.drop (size + 1) with
  | [] => (octets :: found).reverse
  | next :: later =>
    have : (next :: later).length < octets.length := by
      have dropped := congrArg List.length remains
      simp only [List.length_drop, List.length_cons] at dropped ⊢
      omega
    piecesFrom size (octets.take (size + 1) :: found) (next :: later)
  termination_by octets.length

/-- The pieces of a block for frames that carry at most `limit` octets. A limit of zero counts as
one. -/
def pieces (limit : Nat) (block : Octets) : List Octets :=
  piecesFrom (limit - 1) [] block

/-- The frames of a block on the stream of the request. -/
def blockFrames (limit : Nat) (block : Octets) : Except FrameError (List Frame) :=
  let pieces := pieces limit block
  pieces.zipIdx.mapM fun (piece, place) =>
    let ends := decide (place + 1 = pieces.length)
    if place = 0 then Frame.headers requestStream piece true ends
    else Frame.continuation requestStream piece ends

def sendRequest (request : Request) : Action Unit := fun session =>
  match blockFrames session.options.payloadLimit (Hpack.encode request.headerList) with
  | .error error => (.error (.frame error), session)
  | .ok frames => writeFrames frames session

end WebFetch.Session
