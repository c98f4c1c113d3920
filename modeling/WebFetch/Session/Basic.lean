/-
This file holds sessions: one end of a connection on which frames are exchanged. A session has the
settings it announces, the stream, the table of header fields that the other side builds up, and
the journal. Every action returns the session as it is afterwards, also when it fails. Reading a
frame uses up some of the script of the stream, which is why exchanges end.
-/

import WebFetch.Frame.Dump
import WebFetch.Hpack.Block
import WebFetch.Stream.Basic

namespace WebFetch

/-- Why an exchange is given up. -/
inductive SessionError where
  | io (error : IoError)
  | frame (error : FrameError)
  | hpack (error : HpackError)
  | unexpectedFrame (expected received : FrameType)
  | paddedData
  /-- The padding of a header block is longer than what it pads. -/
  | invalidPadding
  /-- The other side gave up the stream. -/
  | streamReset (error : ErrorCode)
  /-- The other side ended the connection. -/
  | goAway (lastStream : UInt32) (error : ErrorCode)
  | missingStatus
  | invalidStatus (value : String)
  deriving DecidableEq, Repr

/-- What a session is configured with. -/
structure SessionOptions where
  settings : List Setting
  /-- The most octets of a header block that one frame carries. -/
  payloadLimit : Nat
  deriving DecidableEq, Repr

/-- The options that hold where none are given. -/
def SessionOptions.default : SessionOptions := ⟨[], Frame.defaultPayloadLimit⟩

/-- One end of a connection. -/
structure Session where
  options : SessionOptions
  stream : Stream
  /-- The header fields that the other side may refer to. -/
  table : DynamicTable
  journal : Journal

namespace Session

def requestStream : UInt32 := 1

/-- A session on which nothing has happened. -/
def new (options : SessionOptions) (stream : Stream) (journal : Journal) : Session :=
  ⟨options, stream, DynamicTable.empty DynamicTable.defaultMaximum, journal⟩

/-- What is done on a session: it yields a result or an error, and the session as it is then. -/
def Action (Result : Type) : Type := Session → Except SessionError Result × Session

/-- Actions follow each other until one fails. -/
instance : Monad Action where
  pure result := fun session => (.ok result, session)
  bind first next := fun session =>
    match first session with
    | (.ok result, session) => next result session
    | (.error error, session) => (.error error, session)

theorem exists_of_bind_eq_ok {First Result : Type} {first : Action First}
    {next : First → Action Result} {session later : Session} {result : Result}
    (found : (first >>= next) session = (.ok result, later)) :
    ∃ between middle,
      first session = (.ok between, middle) ∧ next between middle = (.ok result, later) := by
  simp only [bind] at found
  split at found
  · exact ⟨_, _, by assumption, found⟩
  · simp at found

/-! ### Steps of an action -/

/-- Yields a result that may be an error. -/
def yieldOf {Result : Type} (result : Except SessionError Result) : Action Result :=
  fun session => (result, session)

/-- Does something on the stream. -/
def onStream {Result : Type} (step : Stream → Except IoError Result × Stream) : Action Result :=
  fun session =>
    match step session.stream with
    | (.ok result, stream) => (.ok result, { session with stream := stream })
    | (.error error, stream) => (.error (.io error), { session with stream := stream })

def report (level : Level) (message : String) (details : List Detail) : Action Unit :=
  fun session =>
    (.ok (), { session with journal := session.journal.add ⟨.session, level, message, details⟩ })

/-- Reports to the journal what it is asked about first. -/
def reportExpected (level : Level) (message : String) (details : List Detail) : Action Unit :=
  fun session =>
    (.ok (), { session with
      journal := session.journal.addExpected ⟨.session, level, message, details⟩ })

theorem stream_of_onStream {Result : Type} {step : Stream → Except IoError Result × Stream}
    {session later : Session} {result : Result}
    (found : onStream step session = (.ok result, later)) :
    step session.stream = (.ok result, later.stream) := by
  unfold onStream at found
  split at found
  · rename_i taken
    cases found
    exact taken
  · cases found

/-! ### Actions that do not read -/

/-- The script of the stream is never longer after an action. -/
def NeverRefills {Result : Type} (action : Action Result) : Prop :=
  ∀ session, (action session).2.stream.weight ≤ session.stream.weight

theorem neverRefills_pure {Result : Type} (result : Result) :
    NeverRefills (pure result : Action Result) :=
  fun _ => Nat.le_refl _

theorem neverRefills_yieldOf {Result : Type} (result : Except SessionError Result) :
    NeverRefills (yieldOf result) :=
  fun _ => Nat.le_refl _

theorem neverRefills_report (level : Level) (message : String) (details : List Detail) :
    NeverRefills (report level message details) :=
  fun _ => Nat.le_refl _

theorem neverRefills_reportExpected (level : Level) (message : String) (details : List Detail) :
    NeverRefills (reportExpected level message details) :=
  fun _ => Nat.le_refl _

theorem neverRefills_bind {First Result : Type} {first : Action First}
    {next : First → Action Result} (firstNever : NeverRefills first)
    (nextNever : ∀ result, NeverRefills (next result)) : NeverRefills (first >>= next) := by
  intro session
  have firstLess := firstNever session
  simp only [bind]
  split
  · rename_i taken
    rw [taken] at firstLess
    exact Nat.le_trans (nextNever _ _) firstLess
  · rename_i taken
    rw [taken] at firstLess
    exact firstLess

theorem neverRefills_onStream {Result : Type} {step : Stream → Except IoError Result × Stream}
    (never : ∀ stream, (step stream).2.weight = stream.weight) :
    NeverRefills (onStream step) := by
  intro session
  have same := never session.stream
  unfold onStream
  split <;> rename_i taken <;> rw [taken] at same <;> exact Nat.le_of_eq same

theorem neverRefills_forM {Element : Type} {step : Element → Action Unit}
    (never : ∀ element, NeverRefills (step element)) (elements : List Element) :
    NeverRefills (elements.forM step) := by
  induction elements with
  | nil => exact neverRefills_pure ()
  | cons element elements inductionHypothesis =>
    exact neverRefills_bind (never element) fun _ => inductionHypothesis

/-! ### Writing frames -/

def writeOctets (octets : Octets) : Action Unit :=
  onStream (Stream.writeAll octets)

def writeFrame (frame : Frame) : Action Unit := do
  reportExpected .debug ("SEND\n" ++ frame.dump) []
  writeOctets frame.encode
  onStream Stream.flush
  report .trace "frame written"
    [.plain "frame_type" frame.type.print, .plain "len" frame.payload.length.repr]

theorem neverRefills_writeFrame (frame : Frame) : NeverRefills (writeFrame frame) :=
  neverRefills_bind (neverRefills_reportExpected _ _ _) fun _ =>
    neverRefills_bind (neverRefills_onStream (Stream.weight_writeAll _)) fun _ =>
      neverRefills_bind (neverRefills_onStream Stream.weight_flush) fun _ =>
        neverRefills_report _ _ _

def writeFrames (frames : List Frame) : Action Unit :=
  frames.forM writeFrame

/-! ### Reading frames -/

def readHeader : Action FrameHeader := do
  let octets ← onStream (Stream.readExact FrameHeader.size)
  yieldOf ((FrameHeader.parse octets).mapError .frame)

/-- Reads the payload that a header announces. -/
def readPayload (header : FrameHeader) : Action Octets :=
  onStream (Stream.readExact header.length.toNat)

def readFrame : Action Frame := do
  let header ← readHeader
  let payload ← readPayload header
  let frame := header.withPayload payload
  reportExpected .debug ("RECV\n" ++ frame.dump) []
  return frame

theorem weight_readHeader_lt {session later : Session} {header : FrameHeader}
    (found : readHeader session = (.ok header, later)) :
    later.stream.weight < session.stream.weight := by
  obtain ⟨octets, middle, read, parsed⟩ := exists_of_bind_eq_ok found
  rw [← (Prod.mk.inj parsed).2]
  exact Stream.weight_readExact_lt (stream_of_onStream read) (by decide)

/-- Reading a frame uses up some of the script. -/
theorem weight_readFrame_lt {session later : Session} {frame : Frame}
    (found : readFrame session = (.ok frame, later)) :
    later.stream.weight < session.stream.weight := by
  obtain ⟨header, first, headerRead, found⟩ := exists_of_bind_eq_ok found
  obtain ⟨payload, second, payloadRead, found⟩ := exists_of_bind_eq_ok found
  rw [← (Prod.mk.inj found).2]
  have payloadUsed := Stream.weight_readExact_le (stream_of_onStream payloadRead)
  exact Nat.lt_of_le_of_lt payloadUsed (weight_readHeader_lt headerRead)

end Session

end WebFetch
