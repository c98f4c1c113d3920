/-
This file is about streams that do what they are asked for. The octets that are pending are those
that reading yields before anything goes wrong; however they arrive and however often a read is
interrupted, as many of them as are needed are read. A stream that closes yields these octets and
then its end, or a failure that says the same. A stream that accepts everything takes the octets
that are written in order, in one write or in many.
-/

import WebFetch.Stream.Basic

namespace WebFetch

/-- The octets of events up to the first failure that ends reading, or the first wait for more than
was written. -/
def ReadEvent.pending (written : Octets) : List ReadEvent → Octets
  | [] => []
  | .arrive octets :: later => octets ++ pending written later
  | .fail error :: later => if error.kind = .interrupted then pending written later else []
  | .wait ready :: later => if ready written then pending written later else []

/-- Whether events only interrupt reading before the octets end, or are cut off. -/
def ReadEvent.Closes (written : Octets) : List ReadEvent → Prop
  | [] => True
  | .arrive _ :: later => Closes written later
  | .fail error :: later =>
    if error.kind = .interrupted then Closes written later else error.kind = .unexpectedEof
  | .wait ready :: later => ready written = true ∧ Closes written later

/-- Whether an event of writing takes octets or only interrupts. -/
def WriteEvent.Harmless : WriteEvent → Prop
  | .take most => most ≠ 0
  | .fail error => error.kind = .interrupted

namespace Stream

/-! ### Octets that can be read -/

/-- The octets that can be read although nothing more is written. -/
def pending (stream : Stream) : Octets := ReadEvent.pending stream.written stream.events

/-- One read of events yields some of the pending octets, or is interrupted. -/
theorem readEvents_pending (chunk : Nat) {capacity : Nat} {written : Octets}
    {events : List ReadEvent} (positive : capacity ≠ 0)
    (waiting : ReadEvent.pending written events ≠ []) :
    (∃ error later, readEvents chunk capacity (fun _ => written) events = (.error error, later) ∧
      error.kind = .interrupted ∧
      ReadEvent.pending written later = ReadEvent.pending written events) ∨
    ∃ first rest later,
      readEvents chunk capacity (fun _ => written) events = (.ok (first :: rest), later) ∧
      rest.length + 1 ≤ capacity ∧
      ReadEvent.pending written events = first :: rest ++ ReadEvent.pending written later := by
  induction events with
  | nil => exact absurd rfl waiting
  | cons event events inductionHypothesis =>
    match event with
    | .fail error =>
      by_cases interrupted : error.kind = .interrupted
      · refine Or.inl ⟨error, events, rfl, interrupted, ?_⟩
        rw [ReadEvent.pending, if_pos interrupted]
      · rw [ReadEvent.pending, if_neg interrupted] at waiting
        exact absurd rfl waiting
    | .wait ready =>
      by_cases met : ready written = true
      · rw [ReadEvent.pending, if_pos met] at waiting ⊢
        rw [readEvents, if_pos met]
        exact inductionHypothesis waiting
      · rw [ReadEvent.pending, if_neg met] at waiting
        exact absurd rfl waiting
    | .arrive [] => exact inductionHypothesis waiting
    | .arrive (head :: tail) =>
      rw [readEvents]
      obtain ⟨count, counted⟩ : ∃ count, (if chunk = 0 then capacity else min capacity chunk) =
          count + 1 := Nat.exists_eq_succ_of_ne_zero (by split <;> omega)
      have bounded : count + 1 ≤ capacity := by
        rw [← counted]
        split <;> omega
      rw [counted]
      refine Or.inr ⟨head, tail.take count, _, rfl, ?_, ?_⟩
      · have shorter := List.length_take_le count tail
        omega
      · rw [ReadEvent.pending, List.drop_succ_cons]
        split
        · rename_i nothing
          rw [List.isEmpty_iff] at nothing
          rw [← List.take_append_drop count tail, nothing, List.append_nil, List.take_take,
            Nat.min_self]
        · rw [ReadEvent.pending, List.cons_append, List.cons_append, ← List.append_assoc,
            List.take_append_drop]

/-- One read yields some of the pending octets, or is interrupted. -/
theorem read_pending {capacity : Nat} {stream : Stream} (positive : capacity ≠ 0)
    (waiting : stream.pending ≠ []) :
    (∃ error next, stream.read capacity = (.error error, next) ∧ error.kind = .interrupted ∧
      next.pending = stream.pending) ∨
    ∃ first rest next, stream.read capacity = (.ok (first :: rest), next) ∧
      rest.length + 1 ≤ capacity ∧ stream.pending = first :: rest ++ next.pending := by
  rw [read, if_neg positive]
  rcases readEvents_pending stream.readChunk positive waiting with
    ⟨error, later, found, interrupted, same⟩ | ⟨first, rest, later, found, bounded, parts⟩
  · rw [found]
    exact Or.inl ⟨error, _, rfl, interrupted, same⟩
  · rw [found]
    exact Or.inr ⟨first, rest, _, rfl, bounded, parts⟩

theorem ne_nil_of_le_length {needed : Nat} {octets : Octets} (positive : needed ≠ 0)
    (enough : needed ≤ octets.length) : octets ≠ [] :=
  List.length_pos_iff.mp (Nat.lt_of_lt_of_le (Nat.pos_of_ne_zero positive) enough)

/-- The octets that are needed are read after those that were gathered. -/
theorem readExactFrom_pending {needed : Nat} {gathered : Octets} {stream : Stream}
    (enough : needed ≤ stream.pending.length) :
    ∃ next, stream.readExactFrom needed gathered =
        (.ok (gathered.reverse ++ stream.pending.take needed), next) ∧
      next.pending = stream.pending.drop needed := by
  fun_induction readExactFrom needed gathered stream with
  | case1 gathered stream =>
    refine ⟨stream, ?_, rfl⟩
    rw [List.take_zero, List.append_nil]
  | case2 needed gathered stream positive error next found interrupted shorter
      inductionHypothesis =>
    rcases read_pending positive (ne_nil_of_le_length positive enough) with
      ⟨_, _, same, _, pendingSame⟩ | ⟨_, _, _, same, _⟩
    · rw [found] at same
      cases same
      rw [← pendingSame] at enough ⊢
      exact inductionHypothesis enough
    · rw [found] at same
      cases same
  | case3 needed gathered stream positive error next found lasting =>
    rcases read_pending positive (ne_nil_of_le_length positive enough) with
      ⟨_, _, same, interrupted, _⟩ | ⟨_, _, _, same, _⟩
    · rw [found] at same
      cases same
      exact absurd interrupted lasting
    · rw [found] at same
      cases same
  | case4 needed gathered stream positive next found =>
    rcases read_pending positive (ne_nil_of_le_length positive enough) with
      ⟨_, _, same, _⟩ | ⟨_, _, _, same, _⟩
    all_goals
      rw [found] at same
      cases same
  | case5 needed gathered stream positive first rest next found shorter inductionHypothesis =>
    rcases read_pending positive (ne_nil_of_le_length positive enough) with
      ⟨_, _, same, _⟩ | ⟨_, _, _, same, bounded, parts⟩
    · rw [found] at same
      cases same
    · rw [found] at same
      cases same
      obtain ⟨missing, rfl⟩ := Nat.exists_eq_add_of_le bounded
      have size : rest.length + 1 + missing = (first :: rest).length + missing := rfl
      rw [Nat.add_sub_cancel_left] at inductionHypothesis ⊢
      rw [parts, List.length_append, List.length_cons] at enough
      obtain ⟨last, read, left⟩ := inductionHypothesis (by omega)
      refine ⟨last, ?_, ?_⟩
      · rw [read, parts, size, List.take_length_add_append, List.reverse_append,
          List.reverse_reverse, List.append_assoc]
      · rw [left, parts, size, List.drop_length_add_append]

/-- As many of the pending octets as are needed are read, and the others are pending still. -/
theorem readExact_pending {needed : Nat} {stream : Stream}
    (enough : needed ≤ stream.pending.length) :
    ∃ next, stream.readExact needed = (.ok (stream.pending.take needed), next) ∧
      next.pending = stream.pending.drop needed :=
  readExactFrom_pending enough

/-! ### The end of a stream -/

/-- Whether reading goes on until the stream ends or is cut off, though nothing more is written. -/
def Closes (stream : Stream) : Prop := ReadEvent.Closes stream.written stream.events

/-- A read that is not cut off leaves events that close. -/
theorem readEvents_closes {chunk capacity : Nat} {written : Octets} {events later : List ReadEvent}
    {result : Except IoError Octets} (closes : ReadEvent.Closes written events)
    (found : readEvents chunk capacity (fun _ => written) events = (result, later))
    (lasting : ∀ error, result = .error error → error.kind = .interrupted) :
    ReadEvent.Closes written later := by
  induction events with
  | nil =>
    cases found
    trivial
  | cons event events inductionHypothesis =>
    match event with
    | .fail error =>
      cases found
      rwa [ReadEvent.Closes, if_pos (lasting error rfl)] at closes
    | .wait ready =>
      rw [readEvents, if_pos closes.1] at found
      exact inductionHypothesis closes.2 found
    | .arrive [] => exact inductionHypothesis closes found
    | .arrive (head :: tail) =>
      cases found
      generalize (if chunk = 0 then capacity else min capacity chunk) = count
      split
      · exact closes
      · exact closes

/-- Where no octets are pending, events that close end, are cut off, or interrupt once more. -/
theorem readEvents_of_closes (chunk capacity : Nat) {written : Octets} {events : List ReadEvent}
    (closes : ReadEvent.Closes written events) (nothing : ReadEvent.pending written events = []) :
    ∃ result later, readEvents chunk capacity (fun _ => written) events = (result, later) ∧
      (result = .ok [] ∨ ∃ error, result = .error error ∧ (error.kind = .unexpectedEof ∨
        error.kind = .interrupted ∧ ReadEvent.pending written later = [])) := by
  induction events with
  | nil => exact ⟨_, _, rfl, Or.inl rfl⟩
  | cons event events inductionHypothesis =>
    match event with
    | .fail error =>
      refine ⟨_, _, rfl, Or.inr ⟨error, rfl, ?_⟩⟩
      by_cases interrupted : error.kind = .interrupted
      · rw [ReadEvent.pending, if_pos interrupted] at nothing
        exact Or.inr ⟨interrupted, nothing⟩
      · rw [ReadEvent.Closes, if_neg interrupted] at closes
        exact Or.inl closes
    | .wait ready =>
      rw [ReadEvent.pending, if_pos closes.1] at nothing
      rw [readEvents, if_pos closes.1]
      exact inductionHypothesis closes.2 nothing
    | .arrive [] => exact inductionHypothesis closes nothing
    | .arrive (head :: tail) => cases nothing

theorem closes_read {capacity : Nat} {stream next : Stream} {result : Except IoError Octets}
    (closes : stream.Closes) (found : stream.read capacity = (result, next))
    (lasting : ∀ error, result = .error error → error.kind = .interrupted) : next.Closes := by
  unfold read at found
  split at found
  · cases found
    exact closes
  · cases found
    exact readEvents_closes closes rfl lasting

/-- A stream that closes with no octets pending ends, is cut off, or is interrupted once more. -/
theorem read_of_closes (capacity : Nat) {stream : Stream} (closes : stream.Closes)
    (nothing : stream.pending = []) :
    ∃ result next, stream.read capacity = (result, next) ∧
      (result = .ok [] ∨ ∃ error, result = .error error ∧ (error.kind = .unexpectedEof ∨
        error.kind = .interrupted ∧ next.pending = [])) := by
  unfold read
  split
  · exact ⟨_, _, rfl, Or.inl rfl⟩
  · obtain ⟨result, later, found, cases⟩ :=
      readEvents_of_closes stream.readChunk capacity closes nothing
    rw [found]
    exact ⟨result, _, rfl, cases⟩

/-- One read is interrupted, yields some of the pending octets, or comes to the end. A stream that
closes still does unless it came to its end. -/
theorem read_cases {capacity : Nat} {stream : Stream} (positive : capacity ≠ 0)
    (closes : stream.pending = [] → stream.Closes) :
    ∃ result next, stream.read capacity = (result, next) ∧
      ((∃ error, result = .error error ∧ error.kind = .interrupted ∧
          next.pending = stream.pending ∧ (stream.Closes → next.Closes)) ∨
        (∃ first rest, result = .ok (first :: rest) ∧
          stream.pending = first :: rest ++ next.pending ∧ (stream.Closes → next.Closes)) ∨
        stream.pending = [] ∧
          (result = .ok [] ∨ ∃ error, result = .error error ∧ error.kind = .unexpectedEof)) := by
  by_cases nothing : stream.pending = []
  · obtain ⟨result, next, found, rfl | ⟨error, rfl, eof | ⟨interrupted, left⟩⟩⟩ :=
      read_of_closes capacity (closes nothing) nothing
    · exact ⟨_, next, found, Or.inr (Or.inr ⟨nothing, Or.inl rfl⟩)⟩
    · exact ⟨_, next, found, Or.inr (Or.inr ⟨nothing, Or.inr ⟨error, rfl, eof⟩⟩)⟩
    · refine ⟨_, next, found, Or.inl ⟨error, rfl, interrupted, left.trans nothing.symm, ?_⟩⟩
      exact fun closes => closes_read closes found fun _ same => by cases same; exact interrupted
  · rcases read_pending positive nothing with
      ⟨error, next, found, interrupted, same⟩ | ⟨first, rest, next, found, _, parts⟩
    · refine ⟨_, next, found, Or.inl ⟨error, rfl, interrupted, same, ?_⟩⟩
      exact fun closes => closes_read closes found fun _ same => by cases same; exact interrupted
    · refine ⟨_, next, found, Or.inr (Or.inl ⟨first, rest, rfl, parts, ?_⟩)⟩
      exact fun closes => closes_read closes found fun _ same => by cases same

/-! ### Octets that can be written -/

/-- Whether a stream takes every octet and passes on what was written whenever it is asked to. It
may take the octets in pieces, and writes may be interrupted. -/
structure Accepts (stream : Stream) : Prop where
  events : ∀ event ∈ stream.writeEvents, event.Harmless
  writes : stream.writeRoom = none
  flushes : stream.flushRoom = none

/-- A stream that accepts everything still does after it took octets. -/
theorem accepts_accept {stream : Stream} (accepts : stream.Accepts) (octets : Octets) :
    (stream.accept octets).Accepts := by
  refine ⟨accepts.events, ?_, accepts.flushes⟩
  show stream.writeRoom.map (· - octets.length) = none
  rw [accepts.writes]
  rfl

theorem written_accept (stream : Stream) (octets : Octets) :
    (stream.accept octets).written = stream.written ++ octets := by
  show (octets.reverse ++ stream.writtenReversed).reverse = _
  rw [List.reverse_append, List.reverse_reverse, written]

/-- A call that is recorded changes nothing else. -/
theorem accepts_record {stream : Stream} (accepts : stream.Accepts) (call : StreamCall) :
    (stream.record call).Accepts :=
  ⟨accepts.events, accepts.writes, accepts.flushes⟩

/-- One write takes some of the octets, or is interrupted. -/
theorem write_of_accepts {stream : Stream} (accepts : stream.Accepts) {octets : Octets}
    (some : octets ≠ []) :
    (∃ error next, stream.write octets = (.error error, next) ∧ error.kind = .interrupted ∧
      next.Accepts ∧ next.written = stream.written) ∨
    ∃ count next, stream.write octets = (.ok count, next) ∧ count ≠ 0 ∧ next.Accepts ∧
      next.written = stream.written ++ octets.take count := by
  have long : 0 < octets.length := List.length_pos_iff.mpr some
  unfold write
  split
  · have positive : stream.accepted octets.length ≠ 0 := by
      simp only [accepted, accepts.writes]
      split <;> omega
    rw [writeSteadily, if_neg positive]
    exact Or.inr ⟨_, _, rfl, positive, accepts_record (accepts_accept accepts _) _,
      written_accept stream _⟩
  · rename_i most later events
    have harmless := accepts.events
    rw [events] at harmless
    have laterAccepts : Accepts { stream with writeEvents := later } :=
      ⟨fun event member => harmless event (List.mem_cons_of_mem _ member), accepts.writes,
        accepts.flushes⟩
    have positive : (octets.take most).length ≠ 0 := by
      have mostPositive : most ≠ 0 := harmless (.take most) List.mem_cons_self
      rw [List.length_take]
      omega
    have taken : octets.take (octets.take most).length = octets.take most := by
      rw [List.length_take, ← List.take_eq_take_min]
    refine Or.inr ⟨_, _, rfl, positive, accepts_record (accepts_accept laterAccepts _) _, ?_⟩
    rw [taken]
    exact written_accept _ _
  · rename_i error later events
    have harmless := accepts.events
    rw [events] at harmless
    have laterAccepts : Accepts { stream with writeEvents := later } :=
      ⟨fun event member => harmless event (List.mem_cons_of_mem _ member), accepts.writes,
        accepts.flushes⟩
    exact Or.inl ⟨error, _, rfl, harmless (.fail error) List.mem_cons_self,
      accepts_record laterAccepts _, rfl⟩

/-- All octets are written. -/
theorem writeAll_of_accepts {stream : Stream} (accepts : stream.Accepts) (octets : Octets) :
    ∃ next, stream.writeAll octets = (.ok (), next) ∧ next.Accepts ∧
      next.written = stream.written ++ octets := by
  fun_induction writeAll octets stream with
  | case1 stream => exact ⟨stream, rfl, accepts, (List.append_nil _).symm⟩
  | case2 octets stream some error next found interrupted shorter inductionHypothesis =>
    rcases write_of_accepts accepts some with
      ⟨_, _, same, _, nextAccepts, nextWritten⟩ | ⟨_, _, same, _⟩
    · rw [found] at same
      cases same
      rw [← nextWritten]
      exact inductionHypothesis nextAccepts
    · rw [found] at same
      cases same
  | case3 octets stream some error next found lasting =>
    rcases write_of_accepts accepts some with ⟨_, _, same, interrupted, _⟩ | ⟨_, _, same, _⟩
    · rw [found] at same
      cases same
      exact absurd interrupted lasting
    · rw [found] at same
      cases same
  | case4 octets stream some next found =>
    rcases write_of_accepts accepts some with ⟨_, _, same, _⟩ | ⟨_, _, same, positive, _⟩
    · rw [found] at same
      cases same
    · rw [found] at same
      cases same
      exact absurd rfl positive
  | case5 octets stream some count next found shorter inductionHypothesis =>
    rcases write_of_accepts accepts some with
      ⟨_, _, same, _⟩ | ⟨_, _, same, _, nextAccepts, nextWritten⟩
    · rw [found] at same
      cases same
    · rw [found] at same
      cases same
      obtain ⟨last, wrote, lastAccepts, lastWritten⟩ := inductionHypothesis nextAccepts
      refine ⟨last, wrote, lastAccepts, ?_⟩
      rw [lastWritten, nextWritten, List.append_assoc, List.take_append_drop]

/-- What was written is passed on. -/
theorem flush_of_accepts {stream : Stream} (accepts : stream.Accepts) :
    ∃ next, stream.flush = (.ok (), next) ∧ next.Accepts ∧ next.written = stream.written := by
  refine ⟨stream.record (.flush (.ok ())), ?_, accepts_record accepts _, rfl⟩
  rw [flush, accepts.flushes]

/-- Reading touches nothing but the events of reading. -/
theorem exists_eq_of_read (capacity : Nat) (stream : Stream) :
    ∃ events calls, (stream.read capacity).2 =
      { stream with events := events, callsReversed := calls } := by
  unfold read
  split
  · exact ⟨_, _, rfl⟩
  · exact ⟨_, _, rfl⟩

/-- Reading octets touches nothing but the events of reading. -/
theorem exists_eq_of_readExactFrom (needed : Nat) (gathered : Octets) (stream : Stream) :
    ∃ events calls, (stream.readExactFrom needed gathered).2 =
      { stream with events := events, callsReversed := calls } := by
  have once {next : Stream} {result : Except IoError Octets} {stream : Stream} {needed : Nat}
      (found : stream.read needed = (result, next)) :
      ∃ events calls, next = { stream with events := events, callsReversed := calls } := by
    obtain ⟨events, calls, same⟩ := exists_eq_of_read needed stream
    rw [found] at same
    exact ⟨events, calls, same⟩
  fun_induction readExactFrom needed gathered stream with
  | case1 gathered stream => exact ⟨_, _, rfl⟩
  | case2 needed gathered stream notDone error next found interrupted shorter
      inductionHypothesis =>
    obtain ⟨_, _, rfl⟩ := once found
    exact inductionHypothesis
  | case3 needed gathered stream notDone error next found lasting => exact once found
  | case4 needed gathered stream notDone next found => exact once found
  | case5 needed gathered stream notDone first rest next found shorter inductionHypothesis =>
    obtain ⟨_, _, rfl⟩ := once found
    exact inductionHypothesis

/-- Reading writes nothing and does not keep the stream from accepting everything. -/
theorem readExact_of_accepts {stream : Stream} (accepts : stream.Accepts) (needed : Nat) :
    (stream.readExact needed).2.Accepts ∧
      (stream.readExact needed).2.written = stream.written := by
  obtain ⟨events, calls, same⟩ := exists_eq_of_readExactFrom needed [] stream
  rw [readExact, same]
  exact ⟨⟨accepts.events, accepts.writes, accepts.flushes⟩, rfl⟩

end Stream

end WebFetch
