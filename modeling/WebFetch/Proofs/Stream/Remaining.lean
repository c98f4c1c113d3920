/-
This file says what of its script reading leaves to a stream. After so many octets were read, the
events that remain are those behind the last of these octets, in however many reads they came and
whatever interrupted reading or held it up between them. So the same octets are pending for whoever
reads on, and a stream that closes still does. Writing leaves the events as they are, and does the
same on streams that differ in their events only.
-/

import WebFetch.Proofs.Stream.Calls
import WebFetch.Proofs.Stream.Pending

namespace WebFetch

namespace ReadEvent

/-! ### The events that remain -/

/-- The events that remain once so many octets were read. What stands before the last of these
octets is gone, what stands after it is left. -/
def remaining : (count : Nat) → List ReadEvent → List ReadEvent
  | 0, events => events
  | _ + 1, [] => []
  | count + 1, .arrive octets :: later =>
    if octets.length ≤ count + 1 then remaining (count + 1 - octets.length) later
    else .arrive (octets.drop (count + 1)) :: later
  | count + 1, .fail _ :: later => remaining (count + 1) later
  | count + 1, .wait _ :: later => remaining (count + 1) later

@[simp] theorem remaining_zero (events : List ReadEvent) : remaining 0 events = events := by
  cases events <;> rfl

/-- Reading octets and then others leaves what reading all of them leaves. -/
theorem remaining_remaining (first second : Nat) (events : List ReadEvent) :
    remaining second (remaining first events) = remaining (first + second) events := by
  fun_induction remaining first events with
  | case1 events => rw [Nat.zero_add]
  | case2 count =>
    rw [Nat.succ_add, remaining]
    cases second <;> rfl
  | case3 count octets later whole inductionHypothesis =>
    rw [inductionHypothesis, Nat.succ_add, remaining, if_pos (by omega)]
    congr 1
    omega
  | case4 count octets later part =>
    cases second with
    | zero => rw [remaining_zero, Nat.add_zero, remaining, if_neg part]
    | succ second =>
      rw [remaining, Nat.succ_add, remaining, List.length_drop, List.drop_drop]
      by_cases whole : octets.length ≤ count + (second + 1) + 1
      · rw [if_pos (by omega), if_pos whole]
        congr 1
        omega
      · rw [if_neg (by omega), if_neg whole]
        congr 3
        omega
  | case5 count error later inductionHypothesis =>
    rw [inductionHypothesis, Nat.succ_add, remaining]
  | case6 count ready later inductionHypothesis =>
    rw [inductionHypothesis, Nat.succ_add, remaining]

/-- Octets that can be read are pending no longer once they were read. -/
theorem pending_remaining {written : Octets} {count : Nat} {events : List ReadEvent}
    (enough : count ≤ (pending written events).length) :
    pending written (remaining count events) = (pending written events).drop count := by
  fun_induction remaining count events with
  | case1 events => rfl
  | case2 count => rfl
  | case3 count octets later whole inductionHypothesis =>
    rw [pending, List.length_append] at enough
    rw [inductionHypothesis (by omega), pending, List.drop_append, List.drop_of_length_le whole,
      List.nil_append]
  | case4 count octets later part =>
    rw [pending, pending, List.drop_append_of_le_length (by omega)]
  | case5 count error later inductionHypothesis =>
    rw [pending] at enough ⊢
    split at enough
    · rename_i interrupted
      rw [if_pos interrupted]
      exact inductionHypothesis enough
    · exact absurd enough (Nat.not_succ_le_zero count)
  | case6 count ready later inductionHypothesis =>
    rw [pending] at enough ⊢
    split at enough
    · rename_i met
      rw [if_pos met]
      exact inductionHypothesis enough
    · exact absurd enough (Nat.not_succ_le_zero count)

/-- Events that close do so still after octets were read that were pending. -/
theorem closes_remaining {written : Octets} {count : Nat} {events : List ReadEvent}
    (closes : Closes written events) (enough : count ≤ (pending written events).length) :
    Closes written (remaining count events) := by
  fun_induction remaining count events with
  | case1 events => exact closes
  | case2 count => exact closes
  | case3 count octets later whole inductionHypothesis =>
    rw [pending, List.length_append] at enough
    exact inductionHypothesis closes (by omega)
  | case4 count octets later part => exact closes
  | case5 count error later inductionHypothesis =>
    rw [pending] at enough
    split at enough
    · rename_i interrupted
      rw [Closes, if_pos interrupted] at closes
      exact inductionHypothesis closes enough
    · exact absurd enough (Nat.not_succ_le_zero count)
  | case6 count ready later inductionHypothesis =>
    rw [pending, if_pos closes.1] at enough
    exact inductionHypothesis closes.2 enough

end ReadEvent

namespace Stream

/-! ### Reading -/

/-- One read leaves the events behind the octets that it yields. -/
theorem readEvents_remaining {chunk capacity : Nat} {written : Unit → Octets}
    {events later : List ReadEvent} {first : UInt8} {rest : Octets}
    (found : readEvents chunk capacity written events = (.ok (first :: rest), later)) :
    later = ReadEvent.remaining (rest.length + 1) events := by
  induction events with
  | nil => cases found
  | cons event events inductionHypothesis =>
    match event with
    | .fail error => cases found
    | .wait ready =>
      rw [readEvents] at found
      split at found
      · exact inductionHypothesis found
      · cases found
    | .arrive [] => exact inductionHypothesis found
    | .arrive (head :: tail) =>
      rw [readEvents] at found
      simp only [Prod.mk.injEq, Except.ok.injEq] at found
      obtain ⟨taken, left⟩ := found
      generalize (if chunk = 0 then capacity else min capacity chunk) = count at taken left
      have length := congrArg List.length taken
      rw [List.length_take, List.length_cons, List.length_cons] at length
      rw [← left, ReadEvent.remaining, List.length_cons]
      by_cases whole : tail.length + 1 ≤ count
      · rw [if_pos (by rw [List.drop_of_length_le whole]; rfl), if_pos (by omega),
          show rest.length + 1 - (tail.length + 1) = 0 by omega, ReadEvent.remaining_zero]
      · have some : ¬ ((head :: tail).drop count).isEmpty = true := by
          rw [List.isEmpty_iff, List.drop_eq_nil_iff]
          exact whole
        rw [if_neg some, if_neg (by omega), show rest.length + 1 = count by omega]

/-- An interrupted read leaves the same events to one that yields octets. -/
theorem readEvents_remaining_of_interrupted {chunk capacity : Nat} {written : Unit → Octets}
    {events later : List ReadEvent} {error : IoError}
    (found : readEvents chunk capacity written events = (.error error, later))
    (interrupted : error.kind = .interrupted) (count : Nat) :
    ReadEvent.remaining (count + 1) later = ReadEvent.remaining (count + 1) events := by
  induction events with
  | nil => cases found
  | cons event events inductionHypothesis =>
    match event with
    | .fail failure =>
      cases found
      rfl
    | .wait ready =>
      rw [readEvents] at found
      split at found
      · exact inductionHypothesis found
      · cases found
        cases interrupted
    | .arrive [] =>
      rw [inductionHypothesis found]
      rfl
    | .arrive (head :: tail) => cases found

/-- One read of octets leaves the events behind them. -/
theorem events_read_of_ok {capacity : Nat} {stream next : Stream} {first : UInt8} {rest : Octets}
    (found : stream.read capacity = (.ok (first :: rest), next)) :
    next.events = ReadEvent.remaining (rest.length + 1) stream.events := by
  unfold read at found
  split at found
  · cases found
  · simp only [Prod.mk.injEq] at found
    rw [← found.2]
    exact readEvents_remaining (Prod.ext found.1 rfl)

/-- An interrupted read leaves the same events to one that yields octets. -/
theorem events_read_of_interrupted {capacity : Nat} {stream next : Stream} {error : IoError}
    (found : stream.read capacity = (.error error, next)) (interrupted : error.kind = .interrupted)
    (count : Nat) :
    ReadEvent.remaining (count + 1) next.events =
      ReadEvent.remaining (count + 1) stream.events := by
  unfold read at found
  split at found
  · cases found
  · simp only [Prod.mk.injEq] at found
    rw [← found.2]
    exact readEvents_remaining_of_interrupted (Prod.ext found.1 rfl) interrupted count

/-- The octets that are read are gone from the events, and so is what stood before them. -/
theorem events_readExactFrom {needed : Nat} {gathered octets : Octets} {stream next : Stream}
    (found : stream.readExactFrom needed gathered = (.ok octets, next)) :
    next.events = ReadEvent.remaining needed stream.events := by
  fun_induction readExactFrom needed gathered stream with
  | case1 gathered stream =>
    cases found
    exact (ReadEvent.remaining_zero _).symm
  | case2 needed gathered stream positive error middle read interrupted shorter
      inductionHypothesis =>
    obtain ⟨missing, rfl⟩ := Nat.exists_eq_succ_of_ne_zero positive
    rw [inductionHypothesis found, events_read_of_interrupted read interrupted]
  | case3 => cases found
  | case4 => cases found
  | case5 needed gathered stream positive first rest middle read shorter inductionHypothesis =>
    have bounded : rest.length + 1 ≤ needed := (after_read positive read).2 _ rfl
    rw [inductionHypothesis found, events_read_of_ok read, ReadEvent.remaining_remaining]
    congr 1
    omega

/-- A stream that closes with fewer octets pending than are needed ends before they are there. -/
theorem readExactFrom_of_closes {needed : Nat} {gathered : Octets} {stream : Stream}
    (closes : stream.Closes) (short : stream.pending.length < needed) :
    ∃ error next, stream.readExactFrom needed gathered = (.error error, next) ∧
      error.kind = .unexpectedEof := by
  fun_induction readExactFrom needed gathered stream with
  | case1 gathered stream => exact absurd short (Nat.not_lt_zero _)
  | case2 needed gathered stream positive error middle read interrupted shorter
      inductionHypothesis =>
    rcases read_cases positive fun _ => closes with
      ⟨result, next, same, ⟨_, _, _, pending, kept⟩ | ⟨_, _, rfl, _⟩ | ⟨_, rfl | ⟨_, rfl, eof⟩⟩⟩
    all_goals
      rw [read] at same
      cases same
    · exact inductionHypothesis (kept closes) (by rw [pending]; exact short)
    · rw [interrupted] at eof
      cases eof
  | case3 needed gathered stream positive error middle read lasting =>
    rcases read_cases positive fun _ => closes with
      ⟨result, next, same, ⟨_, rfl, interrupted, _⟩ | ⟨_, _, rfl, _⟩ | ⟨_, rfl | ⟨_, rfl, eof⟩⟩⟩
    all_goals
      rw [read] at same
      cases same
    · exact absurd interrupted lasting
    · exact ⟨error, middle, rfl, eof⟩
  | case4 needed gathered stream positive middle read => exact ⟨_, middle, rfl, rfl⟩
  | case5 needed gathered stream positive first rest middle read shorter inductionHypothesis =>
    rcases read_cases positive fun _ => closes with
      ⟨result, next, same, ⟨_, rfl, _⟩ | ⟨_, _, rfl, parts, kept⟩ | ⟨_, rfl | ⟨_, rfl, _⟩⟩⟩
    all_goals
      rw [read] at same
      cases same
    rw [parts, List.length_append, List.length_cons] at short
    exact inductionHypothesis (kept closes) (by omega)

/-! ### Writing -/

/-- The stream with other events of reading and after other calls. -/
def withReading (events : List ReadEvent) (calls : List StreamCall) (stream : Stream) : Stream :=
  { stream with events := events, callsReversed := calls }

/-- Whether a step does the same on streams that differ in their events of reading only, and leaves
these as they are. -/
def IgnoresReading {Result : Type} (step : Stream → Except IoError Result × Stream) : Prop :=
  ∀ (events : List ReadEvent) (calls : List StreamCall) (stream : Stream),
    ∃ laterCalls, step (stream.withReading events calls) =
      ((step stream).1, (step stream).2.withReading events laterCalls)

theorem IgnoresReading.events {Result : Type} {step : Stream → Except IoError Result × Stream}
    (ignores : IgnoresReading step) (stream : Stream) :
    (step stream).2.events = stream.events := by
  obtain ⟨calls, same⟩ := ignores stream.events stream.callsReversed stream
  exact congrArg (·.2.events) same

theorem ignoresReading_writeSteadily (octets : Octets) : IgnoresReading (writeSteadily octets) := by
  intro events calls stream
  have room : (stream.withReading events calls).accepted octets.length =
      stream.accepted octets.length := rfl
  have failure : (stream.withReading events calls).writeFailure = stream.writeFailure := rfl
  rw [writeSteadily, writeSteadily, room, failure]
  dsimp only
  split
  · split
    · split
      · exact ⟨_, rfl⟩
      · exact ⟨_, rfl⟩
    · exact ⟨_, rfl⟩
  · exact ⟨_, rfl⟩

theorem ignoresReading_write (octets : Octets) : IgnoresReading (write octets) := by
  intro events calls stream
  have script : (stream.withReading events calls).writeEvents = stream.writeEvents := rfl
  rw [write, write, script]
  split
  · exact ignoresReading_writeSteadily octets events calls stream
  · exact ⟨_, rfl⟩
  · exact ⟨_, rfl⟩

/-- Octets are written in a first write and in what it leads to. -/
theorem writeAll_eq {octets : Octets} (some : octets ≠ []) (stream : Stream) :
    writeAll octets stream =
      match stream.write octets with
      | (.error error, next) =>
        if error.kind = .interrupted then writeAll octets next else (.error error, next)
      | (.ok 0, next) => (.error .nothingWritten, next)
      | (.ok (count + 1), next) => writeAll (octets.drop (count + 1)) next := by
  rw [writeAll, dif_neg some]
  split <;> rename_i found <;> simp only [found]
  rfl

theorem ignoresReading_writeAll (octets : Octets) : IgnoresReading (writeAll octets) := by
  intro events calls stream
  fun_induction writeAll octets stream generalizing calls with
  | case1 stream => exact ⟨calls, by rw [writeAll, dif_pos rfl]⟩
  | case2 octets stream some error next found interrupted shorter inductionHypothesis =>
    obtain ⟨middle, same⟩ := ignoresReading_write octets events calls stream
    obtain ⟨last, others⟩ := inductionHypothesis middle
    refine ⟨last, ?_⟩
    rw [writeAll_eq some, same, found]
    dsimp only
    rw [if_pos interrupted, others]
  | case3 octets stream some error next found lasting =>
    obtain ⟨middle, same⟩ := ignoresReading_write octets events calls stream
    refine ⟨middle, ?_⟩
    rw [writeAll_eq some, same, found]
    dsimp only
    rw [if_neg lasting]
  | case4 octets stream some next found =>
    obtain ⟨middle, same⟩ := ignoresReading_write octets events calls stream
    refine ⟨middle, ?_⟩
    rw [writeAll_eq some, same, found]
  | case5 octets stream some count next found shorter inductionHypothesis =>
    obtain ⟨middle, same⟩ := ignoresReading_write octets events calls stream
    obtain ⟨last, others⟩ := inductionHypothesis middle
    refine ⟨last, ?_⟩
    rw [writeAll_eq some, same, found]
    exact others

theorem ignoresReading_flush : IgnoresReading flush := by
  intro events calls stream
  have room : (stream.withReading events calls).flushRoom = stream.flushRoom := rfl
  rw [flush, flush, room]
  split
  · exact ⟨_, rfl⟩
  · exact ⟨_, rfl⟩
  · exact ⟨_, rfl⟩

end Stream

end WebFetch
