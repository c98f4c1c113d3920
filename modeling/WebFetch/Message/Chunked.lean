/-
This file decodes the chunked transfer coding: chunks of a size line and as many octets, a last
chunk of size zero, and trailer lines up to an empty one. Octets that may be the beginning of a
longer coding are told apart from octets that no coding begins with.
-/

import WebFetch.Cut
import WebFetch.Message.Basic
import WebFetch.Octets.Window
import WebFetch.Text.Blank
import WebFetch.Text.Numeral

namespace WebFetch.Chunked

/-- The size that a size line denotes. An extension after a semicolon is ignored. -/
def size? (line : Octets) : Option Nat := do
  let text ← Utf8.decode? line
  (Numeral.parse 16 wordLimit (trim (cutOptional [';'] text).1)).toOption

/-- Whether trailer lines end with an empty line. -/
def trailerEnds (octets : Octets) : Bool :=
  match found : cut Message.lineEnd octets with
  | none => false
  | some ([], _) => true
  | some (_ :: _, after) =>
    have : after.length < octets.length := length_lt_of_cutFrom found
    trailerEnds after
  termination_by octets.length

/-- Decodes chunks that begin at `offset`, with `room` octets left for the body and the pieces
decoded before given last first. Nothing is returned while the coding is not complete. -/
def decodeFrom (room offset : Nat) (pieces : List Octets) (octets : Octets) :
    Except MessageError (Option Octets) :=
  match found : cut Message.lineEnd octets with
  | none => .ok none
  | some (line, after) =>
    match size? line with
    | none => .error .invalidChunk
    | some 0 => .ok (if trailerEnds after then some pieces.reverse.flatten else none)
    | some (size + 1) =>
      let start := offset + line.length + Message.lineEnd.length
      let next := start + (size + 1) + Message.lineEnd.length
      if room < size + 1 then .error .tooLarge
      else if wordLimit ≤ next then .error .invalidChunk
      else
        match remains : after.drop (size + 1) with
        | carriage :: feed :: later =>
          if [carriage, feed] = Message.lineEnd then
            have : later.length < octets.length := by
              have shorter : after.length < octets.length := length_lt_of_cutFrom found
              have dropped := congrArg List.length remains
              simp only [List.length_drop, List.length_cons] at dropped
              omega
            decodeFrom (room - (size + 1)) next (after.take (size + 1) :: pieces) later
          else .error .invalidChunk
        | _ => .ok none
  termination_by octets.length

/-- The body that octets begin with a coding of, if the coding is complete. A body of more than
`limit` octets is refused. -/
def decode (limit : Nat) (octets : Octets) : Except MessageError (Option Octets) :=
  decodeFrom limit 0 [] octets

end WebFetch.Chunked
