/-
This file holds the program: from the arguments it makes out what to fetch, fetches it, and writes
the body followed by a line end. If anything goes wrong before that, it writes no output, says what
went wrong, and ends with an exit code that is not zero. What the program stands on is a parameter:
the network, the library that reads its command line, the library that prints its journal, and where
its output goes.
-/

import WebFetch.CommandLine
import WebFetch.Fetch.Exchange

namespace WebFetch

/-- What the program stands on. -/
structure Platform where
  network : Network
  /-- Reads a command line, given how the value of a header field is read. -/
  readArguments : (String → Except CommandLine.FieldError Field) → List String →
    Except Stop Invocation
  /-- The filter of the journal that the environment holds, if it holds one. -/
  environmentFilter : Option Filter
  /-- The filter of the journal that a text writes. -/
  filter : String → Filter
  /-- The text of what was reported. -/
  print : List Entry → String
  /-- Where the output goes. -/
  output : Stream

namespace Program

/-- What a run of the program comes to. -/
structure Run where
  exitCode : UInt8
  /-- What has been written where the output goes. -/
  output : Octets
  diagnostics : String
  /-- What came of fetching, if it was tried. -/
  outcome : Option Fetch.Outcome

/-- The text of the filter when more detail was asked for so many times. -/
def defaultFilter (verbosity : UInt8) : String :=
  match verbosity with
  | 0 => "warn"
  | 1 => "debug"
  | _ => "trace"

/-- The empty journal of a run. What the environment says goes before the command line. -/
def journalOf (platform : Platform) (verbosity : UInt8) : Journal :=
  (platform.environmentFilter.getD (platform.filter (defaultFilter verbosity))).journal

def report (url : Url) (http2 : Bool) (journal : Journal) : Journal :=
  journal.debug .program "fetching"
    [.plain "url" url.print, .plain "http2" (if http2 then "true" else "false")]

/-- Fetches what was asked for. -/
def fetch (network : Network) (invocation : Invocation) (journal : Journal) : Fetch.Outcome :=
  match Url.parse invocation.url with
  | .error error => Fetch.refuse (.invalidUrl error) journal
  | .ok url =>
    Fetch.fetch network url invocation.fields invocation.options
      (report url invocation.http2 journal)

/-- Writes a body and a line end. -/
def writeBody (body : Octets) (output : Stream) : Except IoError Unit × Stream :=
  match output.writeAll body with
  | (.error error, output) => (.error error, output)
  | (.ok _, output) =>
    match output.writeAll (Utf8.encode "\n") with
    | (.error error, output) => (.error error, output)
    | (.ok _, output) => output.flush

/-- Writes the body of what was fetched. -/
def write (fetched : Except FetchError Answer) (output : Stream) :
    Except FetchError Unit × Stream :=
  match fetched with
  | .error error => (.error error, output)
  | .ok answer =>
    match writeBody answer.body output with
    | (result, output) => (result.mapError .io, output)

def failureCode : UInt8 := 1

/-- The run that ends with what came of fetching. -/
def finish (platform : Platform) (outcome : Fetch.Outcome) : Run :=
  let reported := platform.print outcome.journal.entries
  match write outcome.result platform.output with
  | (.ok _, output) => ⟨0, output.written, reported, some outcome⟩
  | (.error error, output) =>
    ⟨failureCode, output.written, reported ++ ("error: " ++ error.text ++ "\n"), some outcome⟩

def run (platform : Platform) (arguments : List String) : Run :=
  match platform.readArguments CommandLine.parseField arguments with
  | .error stop =>
    ⟨stop.exitCode, platform.output.written ++ stop.output, stop.diagnostics, none⟩
  | .ok invocation =>
    finish platform
      (fetch platform.network invocation (journalOf platform invocation.verbosity))

end Program

end WebFetch
