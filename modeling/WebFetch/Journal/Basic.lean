/-
This file holds the journal: what the parts of the library report while they work. A journal
accepts some entries and keeps those. Entries that take some effort to write are reported only if
the journal expects any of that part and level, which it is asked before their details are known.
Nothing else that a part does depends on it.
-/

namespace WebFetch

/-- How much an entry matters, the most urgent first. -/
inductive Level where
  | error
  | warn
  | info
  | debug
  | trace
  deriving DecidableEq, Repr

namespace Level

def name : Level → String
  | .error => "ERROR"
  | .warn => "WARN"
  | .info => "INFO"
  | .debug => "DEBUG"
  | .trace => "TRACE"

end Level

/-- The parts of the library that report. -/
inductive Reporter where
  | program
  | fetch
  | connection
  | handshake
  | message
  | session
  | headerBlock
  deriving DecidableEq, Repr

/-- The path that stands for a part in a printed journal and that a filter names. -/
def Reporter.path : Reporter → String
  | .program => "http_client"
  | .fetch => "net"
  | .connection => "net::transport"
  | .handshake => "net::tls"
  | .message => "http1"
  | .session => "http2::session"
  | .headerBlock => "http2::hpack::decoder"

/-- A named detail of an entry. -/
structure Detail where
  name : String
  value : String
  /-- Whether the value is a text, which a printed journal quotes. -/
  quoted : Bool
  deriving DecidableEq, Repr

/-- A detail that is printed as it is. -/
def Detail.plain (name value : String) : Detail := ⟨name, value, false⟩

/-- What one part reports at one moment. -/
structure Entry where
  reporter : Reporter
  level : Level
  message : String
  details : List Detail
  deriving DecidableEq, Repr

/-- The entries that were accepted. -/
structure Journal where
  accepts : Entry → Bool
  /-- Whether entries of a part and a level are expected, as far as their details do not matter. -/
  expects : Reporter → Level → Bool
  /-- The entries, last first. -/
  entriesReversed : List Entry

namespace Journal

/-- A journal that accepts nothing. -/
def silent : Journal := ⟨fun _ => false, fun _ _ => false, []⟩

/-- A journal that accepts everything. -/
def complete : Journal := ⟨fun _ => true, fun _ _ => true, []⟩

def entries (journal : Journal) : List Entry := journal.entriesReversed.reverse

/-- Adds an entry, if the journal accepts it. -/
def add (entry : Entry) (journal : Journal) : Journal :=
  if journal.accepts entry then
    { journal with entriesReversed := entry :: journal.entriesReversed }
  else journal

/-- Adds an entry, if the journal expects such entries and accepts this one. -/
def addExpected (entry : Entry) (journal : Journal) : Journal :=
  if journal.expects entry.reporter entry.level then journal.add entry else journal

/-- Adds an entry of level `debug`. -/
def debug (reporter : Reporter) (message : String) (details : List Detail) (journal : Journal) :
    Journal :=
  journal.add ⟨reporter, .debug, message, details⟩

/-- Adds an entry of level `trace`. -/
def trace (reporter : Reporter) (message : String) (details : List Detail) (journal : Journal) :
    Journal :=
  journal.add ⟨reporter, .trace, message, details⟩

end Journal

/-- What a journal is to accept and to expect. -/
structure Filter where
  accepts : Entry → Bool
  expects : Reporter → Level → Bool

/-- The empty journal of a filter. -/
def Filter.journal (filter : Filter) : Journal := ⟨filter.accepts, filter.expects, []⟩

end WebFetch
