/-
This file holds what is printed when a command line asks for help or for the version, and how the
program ends then.
-/

import WebFetch.Simulation.CommandLine.Basic

namespace WebFetch.Simulation.CommandLine

def about : String := "Minimal HTTP/1.1 and HTTP/2 client"

/-- The name of the program and its version. -/
def versionText : String := "http-client 0.1.0"

def describe : Parameter → String
  | .verbose => "Increase log verbosity (-v debug, -vv trace)"
  | .http2 => "Use HTTP/2 (https only; requires ALPN h2)"
  | .header => "Add a request header, e.g. -H 'accept: */*'"
  | .insecure => "Skip TLS certificate verification"
  | .keylog => "Write TLS secrets to $SSLKEYLOGFILE"
  | .connectTimeout => "TCP connect timeout in seconds [default: 30]"
  | .readTimeout => "Socket read timeout in seconds [default: 60]"
  | .help => "Print help"
  | .version => "Print version"

/-- A parameter as help shows it: its letter, if it has one, and its text. -/
def spelling (parameter : Parameter) : String :=
  match parameter.short? with
  | some letter => "  -" ++ letter.toString ++ ", " ++ parameter.print
  | none => "      " ++ parameter.print

def descriptionColumn : Nat :=
  (Parameter.all.map fun parameter => (spelling parameter).length).foldl max 0 + 2

def helpLine (parameter : Parameter) : String :=
  let start := spelling parameter
  start ++ String.ofList (List.replicate (descriptionColumn - start.length) ' ') ++
    describe parameter ++ "\n"

def helpText : String :=
  about ++ "\n\nUsage: http-client [OPTIONS] <URL>\n\nArguments:\n" ++
    "  <URL>  URL to fetch (http:// or https://)\n\nOptions:\n" ++
    String.join (Parameter.all.map helpLine)

/-- The exit code of a command line that cannot be read. -/
def usageCode : UInt8 := 2

/-- How the program ends for a reason. -/
def stop : StopReason → Stop
  | .usage error => ⟨usageCode, [], error.message ++ "\n"⟩
  | .help => ⟨0, Utf8.encode helpText, ""⟩
  | .version => ⟨0, Utf8.encode (versionText ++ "\n"), ""⟩

end WebFetch.Simulation.CommandLine
