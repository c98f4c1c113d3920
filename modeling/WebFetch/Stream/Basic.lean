/-
This file holds a stream of octets that follows a script. What reading yields is a list of events:
octets, a failure, or a wait for something the other side has to write first. What writing does is
such a list too, and after it is bounded by how many octets are taken at once and altogether.
Reading and writing return the stream as it is afterwards, with all octets written so far and a
record of the calls made.
-/

import WebFetch.Octets
import WebFetch.Stream.Error

namespace WebFetch

inductive ReadEvent where
  | arrive (octets : Octets)
  | fail (error : IoError)
  /-- Nothing arrives until the octets written meet a condition. -/
  | wait (ready : Octets → Bool)

namespace ReadEvent

/-- How many reads an event can last: each read takes at least one octet of it or all of it. -/
def weight : ReadEvent → Nat
  | .arrive octets => octets.length + 1
  | .fail _ => 1
  | .wait _ => 1

/-- How many reads events can last. -/
def totalWeight (events : List ReadEvent) : Nat :=
  events.foldr (fun event total => event.weight + total) 0

/-- The number of octets of an event. -/
def size : ReadEvent → Nat
  | .arrive octets => octets.length
  | .fail _ => 0
  | .wait _ => 0

/-- The number of octets of events. -/
def totalSize (events : List ReadEvent) : Nat :=
  events.foldr (fun event total => event.size + total) 0

theorem totalWeight_cons (event : ReadEvent) (events : List ReadEvent) :
    totalWeight (event :: events) = event.weight + totalWeight events := rfl

end ReadEvent

inductive WriteEvent where
  /-- Octets are taken, at most so many. -/
  | take (most : Nat)
  | fail (error : IoError)

/-- A call on a stream, with what comes of it. -/
inductive StreamCall where
  /-- Asks for octets and gets some. None mean that the stream has ended. -/
  | read (result : Except IoError Octets)
  /-- Offers octets, of which the first are taken. -/
  | write (result : Except IoError Octets)
  /-- Asks to pass on what was written. -/
  | flush (result : Except IoError Unit)

/-- A stream of octets that follows a script. -/
structure Stream where
  /-- The events of reading that are still to come. -/
  events : List ReadEvent
  /-- The most octets that one read yields, if it is not zero. -/
  readChunk : Nat
  /-- The events of writing that are still to come. After them the rules below hold. -/
  writeEvents : List WriteEvent := []
  /-- The most octets that one write takes, if it is not zero. -/
  writeChunk : Nat
  /-- How many more octets are taken, if there is a limit. -/
  writeRoom : Option Nat
  /-- How a write fails for which there is no more room. Without one, or if it would only be
  interrupted, such a write takes nothing. -/
  writeFailure : Option IoError
  /-- How many more flushes succeed, if there is a limit. -/
  flushRoom : Option Nat
  /-- How a flush fails that does not succeed. -/
  flushFailure : IoError
  /-- The octets written, last first. -/
  writtenReversed : Octets
  /-- The calls made, last first. -/
  callsReversed : List StreamCall := []

namespace Stream

/-- A stream that yields events and takes everything written to it. -/
def ofEvents (events : List ReadEvent) : Stream where
  events := events
  readChunk := 0
  writeChunk := 0
  writeRoom := none
  writeFailure := none
  flushRoom := none
  flushFailure := ⟨.brokenPipe, "scripted flush"⟩
  writtenReversed := []

def written (stream : Stream) : Octets := stream.writtenReversed.reverse

def calls (stream : Stream) : List StreamCall := stream.callsReversed.reverse

def record (call : StreamCall) (stream : Stream) : Stream :=
  { stream with callsReversed := call :: stream.callsReversed }

/-- The number of octets that were not read. -/
def unread (stream : Stream) : Nat := ReadEvent.totalSize stream.events

/-- A bound on the number of reads before the stream ends. -/
def weight (stream : Stream) : Nat := ReadEvent.totalWeight stream.events

/-! ### Reading -/

/-- At most `capacity` octets of the events, and the events that remain. Nothing means that the
stream has ended. -/
def readEvents (chunk capacity : Nat) (written : Unit → Octets) :
    List ReadEvent → Except IoError Octets × List ReadEvent
  | [] => (.ok [], [])
  | .fail error :: later => (.error error, later)
  | .wait ready :: later =>
    if ready (written ()) then readEvents chunk capacity written later
    else (.error .readTimeout, .wait ready :: later)
  | .arrive [] :: later => readEvents chunk capacity written later
  | .arrive (first :: rest) :: later =>
    let count := if chunk = 0 then capacity else min capacity chunk
    let left := (first :: rest).drop count
    (.ok ((first :: rest).take count),
      if left.isEmpty then later else .arrive left :: later)

/-- One read of at most `capacity` octets. -/
def read (capacity : Nat) (stream : Stream) : Except IoError Octets × Stream :=
  if capacity = 0 then (.ok [], stream)
  else
    match readEvents stream.readChunk capacity (fun _ => stream.written) stream.events with
    | (result, events) => (result, { stream with events := events }.record (.read result))

theorem weight_readEvents_lt_of_ok {chunk capacity : Nat} {written : Unit → Octets}
    {events later : List ReadEvent} {first : UInt8} {rest : Octets}
    (found : readEvents chunk capacity written events = (.ok (first :: rest), later)) :
    ReadEvent.totalWeight later < ReadEvent.totalWeight events := by
  induction events with
  | nil => simp [readEvents] at found
  | cons event events inductionHypothesis =>
    match event with
    | .fail error => simp [readEvents] at found
    | .wait ready =>
      rw [readEvents] at found
      split at found
      · exact Nat.lt_add_left _ (inductionHypothesis found)
      · simp at found
    | .arrive [] =>
      rw [readEvents] at found
      exact Nat.lt_add_left _ (inductionHypothesis found)
    | .arrive (head :: tail) =>
      rw [readEvents] at found
      simp only [Prod.mk.injEq, Except.ok.injEq] at found
      obtain ⟨taken, left⟩ := found
      subst left
      generalize (if chunk = 0 then capacity else min capacity chunk) = count at taken ⊢
      cases count with
      | zero => simp at taken
      | succ count =>
        split
        · simp only [ReadEvent.totalWeight_cons, ReadEvent.weight]
          omega
        · simp only [ReadEvent.totalWeight_cons, ReadEvent.weight, List.drop_succ_cons,
            List.length_drop, List.length_cons]
          omega

theorem weight_readEvents_lt_of_interrupted {chunk capacity : Nat} {written : Unit → Octets}
    {events later : List ReadEvent} {error : IoError}
    (found : readEvents chunk capacity written events = (.error error, later))
    (interrupted : error.kind = .interrupted) :
    ReadEvent.totalWeight later < ReadEvent.totalWeight events := by
  induction events with
  | nil => simp [readEvents] at found
  | cons event events inductionHypothesis =>
    match event with
    | .fail failure =>
      simp only [readEvents, Prod.mk.injEq] at found
      simp [found.2, ReadEvent.totalWeight_cons, ReadEvent.weight]
    | .wait ready =>
      rw [readEvents] at found
      split at found
      · exact Nat.lt_add_left _ (inductionHypothesis found)
      · simp only [Prod.mk.injEq, Except.error.injEq] at found
        rw [← found.1] at interrupted
        contradiction
    | .arrive [] =>
      rw [readEvents] at found
      exact Nat.lt_add_left _ (inductionHypothesis found)
    | .arrive (head :: tail) => simp [readEvents] at found

/-- A read that yields octets uses up some of the script. -/
theorem weight_read_lt_of_ok {capacity : Nat} {stream next : Stream} {first : UInt8}
    {rest : Octets} (found : stream.read capacity = (.ok (first :: rest), next)) :
    next.weight < stream.weight := by
  unfold read at found
  split at found
  · simp at found
  · simp only [Prod.mk.injEq] at found
    rw [← found.2]
    exact weight_readEvents_lt_of_ok (Prod.ext found.1 rfl)

/-- A read that is interrupted uses up some of the script. -/
theorem weight_read_lt_of_interrupted {capacity : Nat} {stream next : Stream} {error : IoError}
    (found : stream.read capacity = (.error error, next))
    (interrupted : error.kind = .interrupted) : next.weight < stream.weight := by
  unfold read at found
  split at found
  · simp at found
  · simp only [Prod.mk.injEq] at found
    rw [← found.2]
    exact weight_readEvents_lt_of_interrupted (Prod.ext found.1 rfl) interrupted

/-- Reads until `needed` octets are there, where the octets read so far are given last first. An
interrupted read is repeated. On a failure the octets read so far are lost. -/
def readExactFrom (needed : Nat) (gathered : Octets) (stream : Stream) :
    Except IoError Octets × Stream :=
  if needed = 0 then (.ok gathered.reverse, stream)
  else
    match found : stream.read needed with
    | (.error error, next) =>
      if interrupted : error.kind = .interrupted then
        have : next.weight < stream.weight := weight_read_lt_of_interrupted found interrupted
        readExactFrom needed gathered next
      else (.error error, next)
    | (.ok [], next) => (.error .endOfStream, next)
    | (.ok (first :: rest), next) =>
      have : next.weight < stream.weight := weight_read_lt_of_ok found
      readExactFrom (needed - (rest.length + 1)) ((first :: rest).reverse ++ gathered) next
  termination_by stream.weight

/-- Reads exactly `needed` octets. -/
def readExact (needed : Nat) (stream : Stream) : Except IoError Octets × Stream :=
  readExactFrom needed [] stream

/-- Reading never adds to the script, and reading at least one octet uses up some of it. -/
theorem weight_readExactFrom {needed : Nat} {gathered octets : Octets} {stream next : Stream}
    (found : stream.readExactFrom needed gathered = (.ok octets, next)) :
    next.weight ≤ stream.weight ∧ (needed ≠ 0 → next.weight < stream.weight) := by
  fun_induction readExactFrom needed gathered stream with
  | case1 => simp_all
  | case2 _ _ _ _ _ _ _ _ shorter inductionHypothesis =>
    have later := (inductionHypothesis found).1
    omega
  | case3 => simp at found
  | case4 => simp at found
  | case5 _ _ _ _ _ _ _ _ shorter inductionHypothesis =>
    have later := (inductionHypothesis found).1
    omega

/-- Reading at least one octet uses up some of the script. -/
theorem weight_readExact_lt {needed : Nat} {octets : Octets} {stream next : Stream}
    (found : stream.readExact needed = (.ok octets, next)) (positive : needed ≠ 0) :
    next.weight < stream.weight :=
  (weight_readExactFrom found).2 positive

/-- Reading never adds to the script. -/
theorem weight_readExact_le {needed : Nat} {octets : Octets} {stream next : Stream}
    (found : stream.readExact needed = (.ok octets, next)) :
    next.weight ≤ stream.weight :=
  (weight_readExactFrom found).1

/-! ### Writing -/

/-- How many of `count` octets one write takes. -/
def accepted (stream : Stream) (count : Nat) : Nat :=
  let count := if stream.writeChunk = 0 then count else min count stream.writeChunk
  match stream.writeRoom with
  | none => count
  | some room => min count room

/-- The stream after it took octets. -/
def accept (octets : Octets) (stream : Stream) : Stream :=
  { stream with
    writtenReversed := octets.reverse ++ stream.writtenReversed
    writeRoom := stream.writeRoom.map (· - octets.length) }

/-- One write of octets after the events of writing, which yields how many were taken. -/
def writeSteadily (octets : Octets) (stream : Stream) : Except IoError Nat × Stream :=
  let count := stream.accepted octets.length
  if count = 0 then
    match stream.writeFailure with
    | some error =>
      if octets.isEmpty ∨ error.kind = .interrupted then (.ok 0, stream.record (.write (.ok [])))
      else (.error error, stream.record (.write (.error error)))
    | none => (.ok 0, stream.record (.write (.ok [])))
  else
    let taken := octets.take count
    (.ok count, (stream.accept taken).record (.write (.ok taken)))

/-- One write of octets, which yields how many were taken. -/
def write (octets : Octets) (stream : Stream) : Except IoError Nat × Stream :=
  match stream.writeEvents with
  | [] => stream.writeSteadily octets
  | .take most :: later =>
    let taken := octets.take most
    let next := { stream with writeEvents := later }
    (.ok taken.length, (next.accept taken).record (.write (.ok taken)))
  | .fail error :: later =>
    (.error error, { stream with writeEvents := later }.record (.write (.error error)))

/-- A write that is interrupted uses up an event. -/
theorem writeEvents_write_lt_of_interrupted {octets : Octets} {stream next : Stream}
    {error : IoError} (found : stream.write octets = (.error error, next))
    (interrupted : error.kind = .interrupted) :
    next.writeEvents.length < stream.writeEvents.length := by
  unfold write at found
  split at found
  · simp only [writeSteadily] at found
    split at found
    · split at found
      · split at found
        · cases found
        · rename_i lasting
          cases found
          exact absurd (Or.inr interrupted) lasting
      · cases found
    · cases found
  · cases found
  · rename_i events
    cases found
    rw [events]
    exact Nat.lt_succ_self _

/-- A write adds no event. -/
theorem writeEvents_write_le {octets : Octets} {stream next : Stream}
    {result : Except IoError Nat} (found : stream.write octets = (result, next)) :
    next.writeEvents.length ≤ stream.writeEvents.length := by
  unfold write at found
  split at found
  · simp only [writeSteadily] at found
    split at found
    · split at found
      · split at found <;> cases found <;> exact Nat.le_refl _
      · cases found
        exact Nat.le_refl _
    · cases found
      exact Nat.le_refl _
  · rename_i events
    cases found
    rw [events]
    exact Nat.le_succ _
  · rename_i events
    cases found
    rw [events]
    exact Nat.le_succ _

/-- Writes all octets, in as many writes as it takes. An interrupted write is repeated. -/
def writeAll (octets : Octets) (stream : Stream) : Except IoError Unit × Stream :=
  if some : octets = [] then (.ok (), stream)
  else
    match found : stream.write octets with
    | (.error error, next) =>
      if interrupted : error.kind = .interrupted then
        have : octets.length + next.writeEvents.length <
            octets.length + stream.writeEvents.length :=
          Nat.add_lt_add_left (writeEvents_write_lt_of_interrupted found interrupted) _
        writeAll octets next
      else (.error error, next)
    | (.ok 0, next) => (.error .nothingWritten, next)
    | (.ok (count + 1), next) =>
      have : octets.length - (count + 1) + next.writeEvents.length <
          octets.length + stream.writeEvents.length := by
        have long := List.length_pos_iff.mpr some
        have fewer := writeEvents_write_le found
        omega
      writeAll (octets.drop (count + 1)) next
  termination_by octets.length + stream.writeEvents.length

/-- Passes on what was written. -/
def flush (stream : Stream) : Except IoError Unit × Stream :=
  match stream.flushRoom with
  | none => (.ok (), stream.record (.flush (.ok ())))
  | some 0 => (.error stream.flushFailure, stream.record (.flush (.error stream.flushFailure)))
  | some (room + 1) => (.ok (), { stream with flushRoom := some room }.record (.flush (.ok ())))

theorem weight_write (octets : Octets) (stream : Stream) :
    (stream.write octets).2.weight = stream.weight := by
  unfold write
  split
  · simp only [writeSteadily]
    split
    · split
      · split <;> rfl
      · rfl
    · rfl
  · rfl
  · rfl

/-- Writing leaves the script of reading as it is. -/
theorem weight_writeAll (octets : Octets) (stream : Stream) :
    (stream.writeAll octets).2.weight = stream.weight := by
  fun_induction writeAll octets stream with
  | case1 => rfl
  | case2 octets stream _ error next written _ _ inductionHypothesis =>
    rw [inductionHypothesis, ← weight_write octets stream, written]
  | case3 octets stream _ error next written =>
    rw [← weight_write octets stream, written]
  | case4 octets stream _ next written =>
    rw [← weight_write octets stream, written]
  | case5 octets stream _ count next written _ inductionHypothesis =>
    rw [inductionHypothesis, ← weight_write octets stream, written]

/-- Passing on what was written leaves the script of reading as it is. -/
theorem weight_flush (stream : Stream) : stream.flush.2.weight = stream.weight := by
  unfold flush
  split <;> rfl

end Stream

end WebFetch
