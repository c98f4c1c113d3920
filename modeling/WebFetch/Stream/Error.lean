/-
This file says how reading from and writing to a stream of octets can fail: a kind, on which
callers decide, and a text for people.
-/

namespace WebFetch

/-- The kinds of failure of a stream. -/
inductive IoErrorKind where
  | interrupted
  | unexpectedEof
  | writeZero
  | brokenPipe
  | timedOut
  | wouldBlock
  | connectionReset
  | connectionRefused
  | hostUnreachable
  | invalidInput
  | invalidData
  | other
  deriving DecidableEq, Repr

/-- A failure of a stream. -/
structure IoError where
  kind : IoErrorKind
  text : String
  deriving DecidableEq, Repr

namespace IoError

/-- The stream ended where octets were still needed. -/
def endOfStream : IoError := ⟨.unexpectedEof, "failed to fill whole buffer"⟩

/-- The stream takes no more octets. -/
def nothingWritten : IoError := ⟨.writeZero, "failed to write whole buffer"⟩

/-- Nothing arrived in the time allowed for reading. -/
def readTimeout : IoError := ⟨.wouldBlock, "Resource temporarily unavailable (os error 11)"⟩

end IoError

end WebFetch
