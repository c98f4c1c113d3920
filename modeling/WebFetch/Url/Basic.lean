/-
This file holds the parts of an absolute URL and puts them together again: the authority, the
target of a request and the whole text. A port that the scheme implies is not written.
-/

import WebFetch.Cut

namespace WebFetch

/-- The parts of an absolute URL that a request needs. A fragment is never sent and not kept. -/
structure Url where
  scheme : String
  /-- A name, or an address of which the brackets are left out. -/
  host : String
  /-- The port, unless it is the one that the scheme implies. -/
  port : Option UInt16
  path : String
  query : Option String
  deriving DecidableEq

/-- Why a text is not a URL. -/
inductive UrlError where
  | emptyInput
  | missingScheme
  | invalidScheme
  | invalidHost
  | invalidPort
  deriving DecidableEq, Repr

def UrlError.message : UrlError → String
  | .emptyInput => "empty URL input"
  | .missingScheme => "missing scheme"
  | .invalidScheme => "invalid scheme"
  | .invalidHost => "invalid host"
  | .invalidPort => "invalid port"

namespace Url

def defaultPort? (scheme : String) : Option UInt16 :=
  if scheme = "http" then some 80
  else if scheme = "https" then some 443
  else none

def effectivePort? (url : Url) : Option UInt16 :=
  match url.port with
  | some port => some port
  | none => defaultPort? url.scheme

/-- The host as it is written, an address with colons in brackets. -/
def bracketedHost (url : Url) : String :=
  if url.host.toList.contains ':' then "[" ++ url.host ++ "]" else url.host

/-- The host, and the port if it is not the one that the scheme implies. -/
def authority (url : Url) : String :=
  match url.port with
  | some port => url.bracketedHost ++ ":" ++ port.toNat.repr
  | none => url.bracketedHost

/-- What a request asks for: the path and the query. -/
def target (url : Url) : String :=
  match url.query with
  | some query => url.path ++ "?" ++ query
  | none => url.path

def print (url : Url) : String :=
  url.scheme ++ "://" ++ url.authority ++ url.target

end Url

end WebFetch
