/-
This file reads a URL: a scheme, two slashes, an authority and a path with a query, after blanks
at both ends are taken away. Scheme and host are put into lower case, a port that the scheme
implies is dropped and the path is normalized, so that what is read is in canonical form.
-/

import WebFetch.Address
import WebFetch.Text.Blank
import WebFetch.Url.Basic
import WebFetch.Url.Path

namespace WebFetch.Url

/-! ### Scheme -/

/-- Whether a character may stand in a scheme. -/
def isSchemeCharacter (character : Char) : Bool :=
  character.isAlphanum || character == '+' || character == '-' || character == '.'

/-- The scheme in lower case, and what follows its colon. -/
def parseScheme (input : List Char) : Except UrlError (List Char × List Char) :=
  match cut [':'] input with
  | none => .error .missingScheme
  | some (scheme, rest) =>
    match scheme with
    | [] => .error .missingScheme
    | first :: others =>
      if ¬ first.isAlpha then .error .missingScheme
      else if ¬ others.all isSchemeCharacter then .error .invalidScheme
      else .ok (scheme.map Char.toLower, rest)

/-! ### Authority -/

def endsAuthority (character : Char) : Bool :=
  character == '/' || character == '?' || character == '#'

/-- Whether a character may stand in a label of a host name. -/
def isLabelCharacter (character : Char) : Bool :=
  character.isAlphanum || character == '-' || character == '_'

/-- Whether a text may stand between two points of a host name. -/
def isLabel (label : List Char) : Bool :=
  decide (label.length ≤ 63) && label.all isLabelCharacter

/-- Whether a text is a host name. Empty labels are accepted, an empty name is not. -/
def isHostName (host : List Char) : Bool :=
  !host.isEmpty && (split ['.'] host).all isLabel

/-- The host, and the text of the port if there is a colon for it. -/
def splitHost (authority : List Char) : Except UrlError (List Char × Option (List Char)) :=
  match authority with
  | '[' :: bracketed =>
    match cut [']'] bracketed with
    | none => .error .invalidHost
    | some (literal, after) =>
      match after with
      | [] => .ok (literal, none)
      | ':' :: port => .ok (literal, some port)
      | _ => .error .invalidHost
  | authority =>
    match cutLast ':' authority with
    | none => .ok (authority, none)
    | some (host, port) => .ok (host, some port)

/-- The host in lower case, if it is of the kind that its brackets, or their absence, announce. -/
def parseHost (bracketed : Bool) (host : List Char) : Except UrlError (List Char) :=
  let host := host.map Char.toLower
  let valid := if bracketed then (Address.parseV6? host).isSome else isHostName host
  if valid then .ok host else .error .invalidHost

/-- The port that decimal digits denote, unless it is the one that the scheme implies. -/
def parsePort (scheme : String) (port : Option (List Char)) : Except UrlError (Option UInt16) :=
  match port with
  | none => .ok none
  | some digits =>
    if digits.isEmpty ∨ ¬ digits.all Char.isDigit then .error .invalidPort
    else
      match Numeral.parse 10 wordLimit16 digits with
      | .error _ => .error .invalidPort
      | .ok value =>
        let port := UInt16.ofNat value
        .ok (if defaultPort? scheme = some port then none else some port)

/-! ### The whole -/

/-- The path and the query of what follows an authority. -/
def splitTarget (rest : List Char) : List Char × Option (List Char) :=
  cutOptional ['?'] (cutOptional ['#'] rest).1

/-- What follows the two slashes that stand before an authority. -/
def afterSlashes : List Char → Except UrlError (List Char)
  | '/' :: '/' :: rest => .ok rest
  | _ => .error .invalidScheme

/-- The URL with a scheme and what follows the slashes. -/
def parseAuthority (scheme : String) (text : List Char) : Except UrlError Url := do
  let authority := text.takeWhile fun character => !endsAuthority character
  let rest := text.dropWhile fun character => !endsAuthority character
  let (host, port) ← splitHost authority
  let host ← parseHost (authority.head? == some '[') host
  let port ← parsePort scheme port
  let (path, query) := splitTarget rest
  return {
    scheme := scheme
    host := String.ofList host
    port := port
    path := String.ofList (Path.normalize path)
    query := query.map String.ofList }

/-- The URL that a text without blanks at its ends writes. -/
def parseTrimmed (input : List Char) : Except UrlError Url :=
  if input.isEmpty then .error .emptyInput
  else do
    let (scheme, rest) ← parseScheme input
    let rest ← afterSlashes rest
    parseAuthority (String.ofList scheme) rest

/-- The URL that a text writes. -/
def parse (input : String) : Except UrlError Url :=
  parseTrimmed (trim input.toList)

end WebFetch.Url
