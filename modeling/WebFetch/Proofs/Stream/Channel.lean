/-
This file is about streams whose scripts only deliver octets and take some. Reads and writes may be
interrupted, each may be of any size, and there may be an end to what is taken. What such a stream
does is what its channel does: the octets that arrive and those that were written, without the
events and the sizes in which they come and go.
-/

import WebFetch.Proofs.Stream.Pending

namespace WebFetch

namespace ReadEvent

/-- Whether an event of reading yields octets or only interrupts. -/
def Harmless : ReadEvent → Prop
  | .arrive _ => True
  | .fail error => error.kind = .interrupted
  | .wait _ => False

def octets : ReadEvent → Octets
  | .arrive octets => octets
  | .fail _ => []
  | .wait _ => []

/-- The octets that events yield. -/
def allOctets (events : List ReadEvent) : Octets := events.flatMap octets

theorem allOctets_cons (event : ReadEvent) (events : List ReadEvent) :
    allOctets (event :: events) = event.octets ++ allOctets events :=
  List.flatMap_cons

theorem length_allOctets (events : List ReadEvent) :
    (allOctets events).length = totalSize events := by
  induction events with
  | nil => rfl
  | cons event events inductionHypothesis =>
    rw [allOctets_cons, List.length_append, inductionHypothesis]
    cases event <;> rfl

/-- All octets of harmless events are pending. -/
theorem pending_of_harmless (written : Octets) {events : List ReadEvent}
    (harmless : ∀ event ∈ events, event.Harmless) : pending written events = allOctets events := by
  induction events with
  | nil => rfl
  | cons event events inductionHypothesis =>
    obtain ⟨first, others⟩ := List.forall_mem_cons.mp harmless
    have later := inductionHypothesis others
    rw [allOctets_cons, ← later]
    cases event with
    | arrive octets => rfl
    | fail error => exact if_pos first
    | wait ready => exact first.elim

end ReadEvent

/-! ### Channels -/

/-- What a stream comes to if its reads and writes are as long as they have to be. -/
structure Channel where
  /-- The octets that are still to be read. -/
  arriving : Octets
  written : Octets
  /-- How many more octets are taken, if there is a limit. -/
  writeRoom : Option Nat
  writeFailure : Option IoError
  /-- How many more flushes succeed, if there is a limit. -/
  flushRoom : Option Nat
  flushFailure : IoError
  deriving DecidableEq

namespace Channel

def readExact (needed : Nat) (channel : Channel) : Except IoError Octets × Channel :=
  if needed ≤ channel.arriving.length then
    (.ok (channel.arriving.take needed),
      { channel with arriving := channel.arriving.drop needed })
  else (.error .endOfStream, { channel with arriving := [] })

/-- The channel after it took octets. -/
def accept (octets : Octets) (channel : Channel) : Channel :=
  { channel with
    written := channel.written ++ octets
    writeRoom := channel.writeRoom.map (· - octets.length) }

/-- How many of `count` octets are taken. -/
def accepted (channel : Channel) (count : Nat) : Nat :=
  match channel.writeRoom with
  | none => count
  | some room => min count room

/-- How writing fails where there is no more room. -/
def refusal (channel : Channel) : IoError :=
  match channel.writeFailure with
  | none => .nothingWritten
  | some error => if error.kind = .interrupted then .nothingWritten else error

def writeAll (octets : Octets) (channel : Channel) : Except IoError Unit × Channel :=
  let count := channel.accepted octets.length
  (if count = octets.length then .ok () else .error channel.refusal,
    channel.accept (octets.take count))

def flush (channel : Channel) : Except IoError Unit × Channel :=
  match channel.flushRoom with
  | none => (.ok (), channel)
  | some 0 => (.error channel.flushFailure, channel)
  | some (room + 1) => (.ok (), { channel with flushRoom := some room })

/-- What one read of at most `capacity` octets can come to. -/
inductive Reads (capacity : Nat) (channel later : Channel) : Except IoError Octets → Prop where
  | interrupted {error : IoError} (interrupted : error.kind = .interrupted)
      (same : later = channel) : Reads capacity channel later (.error error)
  | some {first : UInt8} {rest others : Octets} (bounded : rest.length + 1 ≤ capacity)
      (parts : channel.arriving = first :: rest ++ others)
      (changed : later = { channel with arriving := others }) :
      Reads capacity channel later (.ok (first :: rest))
  | ended (ended : channel.arriving = []) (same : later = channel) :
      Reads capacity channel later (.ok [])

/-- What one write of octets can come to. -/
inductive Writes (octets : Octets) (channel later : Channel) : Except IoError Nat → Prop where
  | interrupted {error : IoError} (interrupted : error.kind = .interrupted)
      (same : later = channel) : Writes octets channel later (.error error)
  | some {count : Nat} (positive : count ≠ 0) (fits : count ≤ channel.accepted octets.length)
      (changed : later = channel.accept (octets.take count)) :
      Writes octets channel later (.ok count)
  | nothing (full : channel.accepted octets.length = 0)
      (refusal : channel.refusal = .nothingWritten) (same : later = channel) :
      Writes octets channel later (.ok 0)
  | refused {error : IoError} (lasting : error.kind ≠ .interrupted)
      (full : channel.accepted octets.length = 0) (refusal : channel.refusal = error)
      (same : later = channel) :
      Writes octets channel later (.error error)

/-! ### Steps on a channel -/

theorem readExact_zero (channel : Channel) : channel.readExact 0 = (.ok [], channel) := rfl

/-- Octets may be read first of those that are needed. -/
theorem readExact_append {channel : Channel} {octets rest : Octets} {needed : Nat}
    (arriving : channel.arriving = octets ++ rest) (part : octets.length ≤ needed) :
    channel.readExact needed =
      let later := { channel with arriving := rest }.readExact (needed - octets.length)
      (later.1.map (octets ++ ·), later.2) := by
  obtain ⟨missing, rfl⟩ := Nat.exists_eq_add_of_le part
  rw [readExact, readExact, arriving, List.length_append, Nat.add_sub_cancel_left]
  dsimp only
  by_cases enough : missing ≤ rest.length
  · rw [if_pos enough, if_pos (Nat.add_le_add_left enough _), List.take_length_add_append,
      List.drop_length_add_append]
    rfl
  · rw [if_neg enough, if_neg (fun all => enough (Nat.le_of_add_le_add_left all))]
    rfl

theorem readExact_of_end {channel : Channel} {needed : Nat} (positive : needed ≠ 0)
    (ended : channel.arriving = []) :
    channel.readExact needed = (.error .endOfStream, channel) := by
  rw [readExact, if_neg (by rw [ended, List.length_nil]; omega), ← ended]

theorem accepted_le (channel : Channel) (count : Nat) : channel.accepted count ≤ count := by
  unfold accepted
  split
  · exact Nat.le_refl _
  · exact Nat.min_le_left _ _

theorem accept_accept (channel : Channel) (first second : Octets) :
    (channel.accept first).accept second = channel.accept (first ++ second) := by
  obtain ⟨arriving, written, room⟩ := channel
  simp only [accept, List.append_assoc, List.length_append]
  cases room with
  | none => rfl
  | some room => simp only [Option.map_some, Nat.sub_sub]

theorem accepted_accept {channel : Channel} {octets : Octets} {count : Nat}
    (fits : octets.length ≤ channel.accepted count) :
    (channel.accept octets).accepted (count - octets.length) =
      channel.accepted count - octets.length := by
  unfold accepted at fits ⊢
  rw [accept]
  cases limit : channel.writeRoom with
  | none => rfl
  | some room =>
    rw [limit] at fits
    simp only [Option.map_some] at fits ⊢
    omega

theorem accept_nil (channel : Channel) : channel.accept [] = channel := by
  obtain ⟨arriving, written, room⟩ := channel
  rw [accept, List.append_nil]
  cases room <;> rfl

theorem writeAll_nil (channel : Channel) : channel.writeAll [] = (.ok (), channel) := by
  rw [writeAll, List.take_nil, accept_nil, List.length_nil,
    Nat.le_zero.mp (channel.accepted_le 0)]
  rfl

theorem writeAll_of_full {channel : Channel} {octets : Octets} (some : octets ≠ [])
    (full : channel.accepted octets.length = 0) :
    channel.writeAll octets = (.error channel.refusal, channel) := by
  have long := List.length_pos_iff.mpr some
  rw [writeAll, full, List.take_zero, accept_nil, if_neg (by omega)]

/-- Octets for which there is room may be written first. -/
theorem writeAll_accept {channel : Channel} {octets : Octets} {count : Nat}
    (fits : count ≤ channel.accepted octets.length) :
    (channel.accept (octets.take count)).writeAll (octets.drop count) =
      channel.writeAll octets := by
  have bound := channel.accepted_le octets.length
  have taken : (octets.take count).length = count := by rw [List.length_take]; omega
  have others := accepted_accept (by rw [taken]; exact fits : (octets.take count).length ≤ _)
  rw [taken] at others
  have parts : octets.take count ++
      (octets.drop count).take (channel.accepted octets.length - count) =
        octets.take (channel.accepted octets.length) := by
    rw [← List.take_add, Nat.add_sub_cancel' fits]
  have enough : channel.accepted octets.length - count = octets.length - count ↔
      channel.accepted octets.length = octets.length := by omega
  simp only [writeAll, List.length_drop, others, enough, accept_accept, parts]
  rfl

/-! ### Octets that follow -/

/-- The channel with further octets that arrive after the others. -/
def followedBy (extra : Octets) (channel : Channel) : Channel :=
  { channel with arriving := channel.arriving ++ extra }

theorem followedBy_nil (channel : Channel) : channel.followedBy [] = channel := by
  rw [followedBy, List.append_nil]

/-- Whether a channel becomes another by reading and writing. -/
structure Advances (channel later : Channel) : Prop where
  arriving : later.arriving <:+ channel.arriving
  written : channel.written <+: later.written

theorem Advances.refl (channel : Channel) : channel.Advances channel :=
  ⟨List.suffix_refl _, List.prefix_refl _⟩

theorem Advances.trans {channel middle later : Channel} (first : channel.Advances middle)
    (second : middle.Advances later) : channel.Advances later :=
  ⟨second.arriving.trans first.arriving, first.written.trans second.written⟩

/-- Whether octets that followed only on the longer channel were read from it, where as much was
written to it as to the shorter one and perhaps more. -/
structure Overtakes (extra : Octets) (shorter longer : Channel) : Prop where
  arriving : longer.arriving.length < extra.length
  written : shorter.written <+: longer.written

theorem Overtakes.advances {extra : Octets} {shorter longer later : Channel}
    (overtakes : Overtakes extra shorter longer) (advances : longer.Advances later) :
    Overtakes extra shorter later :=
  ⟨Nat.lt_of_le_of_lt advances.arriving.length_le overtakes.arriving,
    overtakes.written.trans advances.written⟩

/-- Whether a step depends on nothing but the octets that it reads: those that follow make no
difference, unless without them the octets come to their end too early. -/
structure Determined {Result : Type} (step : Channel → Except IoError Result × Channel) :
    Prop where
  advances : ∀ channel : Channel, channel.Advances (step channel).2
  agrees : ∀ extra channel,
    step (channel.followedBy extra) = ((step channel).1, (step channel).2.followedBy extra) ∨
      (step channel).1 = .error .endOfStream ∧
        Overtakes extra (step channel).2 (step (channel.followedBy extra)).2

theorem determined_readExact (needed : Nat) : Determined (readExact needed) := by
  constructor
  · intro channel
    unfold readExact
    split
    · exact ⟨List.drop_suffix _ _, List.prefix_refl _⟩
    · exact ⟨List.nil_suffix, List.prefix_refl _⟩
  · intro extra channel
    by_cases enough : needed ≤ channel.arriving.length
    · have more : needed ≤ (channel.followedBy extra).arriving.length :=
        Nat.le_trans enough (List.length_append ▸ Nat.le_add_right _ _)
      left
      rw [readExact, readExact, if_pos enough, if_pos more]
      simp only [followedBy, List.take_append_of_le_length enough,
        List.drop_append_of_le_length enough]
    · by_cases nothing : extra = []
      · left
        rw [nothing, followedBy_nil, followedBy_nil]
      · have some : 0 < extra.length := List.length_pos_iff.mpr nothing
        right
        rw [readExact, readExact, if_neg enough]
        refine ⟨rfl, ?_⟩
        split
        · refine ⟨?_, List.prefix_refl _⟩
          simp only [followedBy, List.length_drop, List.length_append]
          omega
        · exact ⟨some, List.prefix_refl _⟩

/-- A step that does not read depends on no octets. -/
theorem determined_of_followedBy {Result : Type} {step : Channel → Except IoError Result × Channel}
    (advances : ∀ channel : Channel, channel.Advances (step channel).2)
    (same : ∀ extra channel,
      step (channel.followedBy extra) = ((step channel).1, (step channel).2.followedBy extra)) :
    Determined step :=
  ⟨advances, fun extra channel => Or.inl (same extra channel)⟩

theorem determined_writeAll (octets : Octets) : Determined (writeAll octets) :=
  determined_of_followedBy (fun _ => ⟨List.suffix_refl _, List.prefix_append _ _⟩)
    fun _ _ => rfl

theorem determined_flush : Determined flush := by
  refine determined_of_followedBy (fun channel => ?_) fun extra channel => ?_
  · unfold flush
    split <;> exact ⟨List.suffix_refl _, List.prefix_refl _⟩
  · have sameRoom : (channel.followedBy extra).flushRoom = channel.flushRoom := rfl
    rw [flush, flush, sameRoom]
    cases channel.flushRoom with
    | none => rfl
    | some room => cases room <;> rfl

end Channel

/-! ### Streams that are steady -/

namespace Stream

/-- The octets of the script that were not read. -/
def arriving (stream : Stream) : Octets := ReadEvent.allOctets stream.events

def channel (stream : Stream) : Channel where
  arriving := stream.arriving
  written := stream.written
  writeRoom := stream.writeRoom
  writeFailure := stream.writeFailure
  flushRoom := stream.flushRoom
  flushFailure := stream.flushFailure

theorem length_arriving (stream : Stream) : stream.arriving.length = stream.unread :=
  ReadEvent.length_allOctets _

/-- Whether a script only delivers octets and takes some, apart from interruptions. -/
structure Steady (stream : Stream) : Prop where
  reads : ∀ event ∈ stream.events, event.Harmless
  writes : ∀ event ∈ stream.writeEvents, event.Harmless
  /-- Events of writing take octets without regard to how many more may be taken. -/
  unlimited : stream.writeEvents = [] ∨ stream.writeRoom = none

/-- Whether a step on a stream does to the channel what a step on channels does. -/
def Carries {Result : Type} (step : Stream → Except IoError Result × Stream)
    (spec : Channel → Except IoError Result × Channel) : Prop :=
  ∀ stream : Stream, stream.Steady →
    (step stream).2.Steady ∧ ((step stream).1, (step stream).2.channel) = spec stream.channel

/-! ### Reading -/

theorem harmless_readEvents {chunk capacity : Nat} {written : Unit → Octets}
    {events later : List ReadEvent} {result : Except IoError Octets}
    (harmless : ∀ event ∈ events, event.Harmless)
    (found : readEvents chunk capacity written events = (result, later)) :
    ∀ event ∈ later, event.Harmless := by
  induction events with
  | nil =>
    cases found
    exact harmless
  | cons event events inductionHypothesis =>
    obtain ⟨first, others⟩ := List.forall_mem_cons.mp harmless
    match event with
    | .fail error =>
      cases found
      exact others
    | .wait ready => exact first.elim
    | .arrive [] => exact inductionHypothesis others found
    | .arrive (head :: tail) =>
      cases found
      generalize (if chunk = 0 then capacity else min capacity chunk) = count
      split
      · exact others
      · exact List.forall_mem_cons.mpr ⟨trivial, others⟩

/-- Without octets, harmless events only interrupt. -/
theorem readEvents_of_silent (chunk capacity : Nat) (written : Unit → Octets)
    {events : List ReadEvent} (harmless : ∀ event ∈ events, event.Harmless)
    (silent : ReadEvent.allOctets events = []) :
    ∃ result later, readEvents chunk capacity written events = (result, later) ∧
      ReadEvent.allOctets later = [] ∧
      (result = .ok [] ∨ ∃ error, result = .error error ∧ error.kind = .interrupted) := by
  induction events with
  | nil => exact ⟨_, _, rfl, rfl, Or.inl rfl⟩
  | cons event events inductionHypothesis =>
    obtain ⟨first, others⟩ := List.forall_mem_cons.mp harmless
    obtain ⟨here, later⟩ := List.append_eq_nil_iff.mp silent
    match event with
    | .fail error => exact ⟨_, _, rfl, later, Or.inr ⟨error, rfl, first⟩⟩
    | .wait ready => exact first.elim
    | .arrive [] => exact inductionHypothesis others later
    | .arrive (head :: tail) => cases here

theorem read_of_steady {capacity : Nat} {stream : Stream} (positive : capacity ≠ 0)
    (steady : stream.Steady) :
    (stream.read capacity).2.Steady ∧
      Channel.Reads capacity stream.channel (stream.read capacity).2.channel
        (stream.read capacity).1 := by
  rw [read, if_neg positive]
  cases found : readEvents stream.readChunk capacity (fun _ => stream.written) stream.events with
  | mk result later =>
  have laterReads := harmless_readEvents steady.reads found
  have changed {octets : Octets} (same : ReadEvent.allOctets later = octets) :
      ({ stream with events := later }.record (.read result)).channel =
        { stream.channel with arriving := octets } := by
    rw [← same]
    rfl
  refine ⟨⟨laterReads, steady.writes, steady.unlimited⟩, ?_⟩
  by_cases silent : stream.arriving = []
  · obtain ⟨_, _, same, laterSilent, ended | ⟨error, failed, interrupted⟩⟩ :=
      readEvents_of_silent stream.readChunk capacity (fun _ => stream.written) steady.reads silent
    all_goals
      rw [found] at same
      cases same
    · rw [ended]
      exact .ended silent (changed (laterSilent.trans silent.symm))
    · rw [failed]
      exact .interrupted interrupted (changed (laterSilent.trans silent.symm))
  · have pending := ReadEvent.pending_of_harmless stream.written steady.reads
    have laterPending := ReadEvent.pending_of_harmless stream.written laterReads
    rw [arriving, ← pending] at silent
    rcases readEvents_pending stream.readChunk positive silent with
      ⟨error, _, same, interrupted, kept⟩ | ⟨first, rest, _, same, bounded, parts⟩
    all_goals
      rw [found] at same
      cases same
    · rw [laterPending, pending] at kept
      exact .interrupted interrupted (changed kept)
    · rw [laterPending, pending] at parts
      exact .some bounded parts (changed rfl)

theorem readExactFrom_of_steady {needed : Nat} {gathered : Octets} {stream : Stream}
    (steady : stream.Steady) :
    (stream.readExactFrom needed gathered).2.Steady ∧
      ((stream.readExactFrom needed gathered).1,
          (stream.readExactFrom needed gathered).2.channel) =
        ((stream.channel.readExact needed).1.map (gathered.reverse ++ ·),
          (stream.channel.readExact needed).2) := by
  fun_induction readExactFrom needed gathered stream with
  | case1 gathered stream =>
    refine ⟨steady, ?_⟩
    rw [Channel.readExact_zero, Except.map, List.append_nil]
  | case2 needed gathered stream positive error next found interrupted shorter
      inductionHypothesis =>
    obtain ⟨nextSteady, reads⟩ := read_of_steady positive steady
    rw [found] at nextSteady reads
    cases reads with
    | interrupted _ same =>
      rw [← same]
      exact inductionHypothesis nextSteady
  | case3 needed gathered stream positive error next found lasting =>
    obtain ⟨nextSteady, reads⟩ := read_of_steady positive steady
    rw [found] at nextSteady reads
    cases reads with
    | interrupted interrupted _ => exact absurd interrupted lasting
  | case4 needed gathered stream positive next found =>
    obtain ⟨nextSteady, reads⟩ := read_of_steady positive steady
    rw [found] at nextSteady reads
    cases reads with
    | ended ended same =>
      refine ⟨nextSteady, ?_⟩
      rw [Channel.readExact_of_end positive ended, same]
      rfl
  | case5 needed gathered stream positive first rest next found shorter inductionHypothesis =>
    obtain ⟨nextSteady, reads⟩ := read_of_steady positive steady
    rw [found] at nextSteady reads
    cases reads with
    | @some _ _ others bounded parts changed =>
      obtain ⟨lastSteady, read⟩ := inductionHypothesis nextSteady
      refine ⟨lastSteady, ?_⟩
      rw [read, changed, Channel.readExact_append parts bounded, ← List.length_cons]
      cases { stream.channel with arriving := others }.readExact
        (needed - (first :: rest).length) with
      | mk result later =>
      cases result with
      | error error => rfl
      | ok octets =>
        simp only [Except.map, List.reverse_append, List.reverse_reverse, List.append_assoc]

theorem readExact_carries (needed : Nat) :
    Carries (readExact needed) (Channel.readExact needed) := by
  intro stream steady
  obtain ⟨nextSteady, read⟩ := @readExactFrom_of_steady needed [] stream steady
  refine ⟨nextSteady, read.trans ?_⟩
  cases stream.channel.readExact needed with
  | mk result later => cases result <;> rfl

/-! ### Writing -/

theorem channel_accept (octets : Octets) (stream : Stream) :
    (stream.accept octets).channel = stream.channel.accept octets := by
  rw [channel, written_accept]
  rfl

/-- One write takes octets only as far as there is room, and at least one if there is any. -/
theorem accepted_channel (stream : Stream) (count : Nat) :
    stream.accepted count ≤ stream.channel.accepted count ∧
      (stream.accepted count = 0 → stream.channel.accepted count = 0) := by
  have sameRoom : stream.channel.writeRoom = stream.writeRoom := rfl
  unfold accepted Channel.accepted
  rw [sameRoom]
  cases stream.writeRoom with
  | none =>
    dsimp only
    split <;> omega
  | some room =>
    dsimp only
    split <;> omega

theorem refusal_channel (stream : Stream) :
    stream.channel.refusal =
      match stream.writeFailure with
      | none => .nothingWritten
      | some error => if error.kind = .interrupted then .nothingWritten else error := rfl

theorem writeSteadily_of_steady {octets : Octets} {stream : Stream} (some : octets ≠ [])
    (steady : stream.Steady) (noEvents : stream.writeEvents = []) :
    (stream.writeSteadily octets).2.Steady ∧
      Channel.Writes octets stream.channel (stream.writeSteadily octets).2.channel
        (stream.writeSteadily octets).1 := by
  obtain ⟨bounded, full⟩ := stream.accepted_channel octets.length
  have refusal := stream.refusal_channel
  have recorded (call : StreamCall) : (stream.record call).Steady :=
    ⟨steady.reads, steady.writes, steady.unlimited⟩
  rw [writeSteadily]
  split
  · rename_i nothing
    split
    · rename_i error failure
      rw [failure] at refusal
      split
      · rename_i repeats
        have interrupted := repeats.resolve_left fun empty => some (List.isEmpty_iff.mp empty)
        exact ⟨recorded _, .nothing (full nothing) (refusal.trans (if_pos interrupted)) rfl⟩
      · rename_i repeats
        have lasting := fun interrupted => repeats (Or.inr interrupted)
        exact ⟨recorded _, .refused lasting (full nothing) (refusal.trans (if_neg lasting)) rfl⟩
    · rename_i failure
      rw [failure] at refusal
      exact ⟨recorded _, .nothing (full nothing) refusal rfl⟩
  · rename_i positive
    exact ⟨⟨steady.reads, steady.writes, Or.inl noEvents⟩,
      .some positive bounded (channel_accept (octets.take _) stream)⟩

theorem write_of_steady {octets : Octets} {stream : Stream} (some : octets ≠ [])
    (steady : stream.Steady) :
    (stream.write octets).2.Steady ∧
      Channel.Writes octets stream.channel (stream.write octets).2.channel
        (stream.write octets).1 := by
  unfold write
  split
  · rename_i noEvents
    exact writeSteadily_of_steady some steady noEvents
  · rename_i most later events
    have unlimited : stream.writeRoom = none := steady.unlimited.resolve_left (by simp [events])
    have accepted : stream.channel.accepted octets.length = octets.length := by
      rw [Channel.accepted, show stream.channel.writeRoom = none from unlimited]
    obtain ⟨harmless, others⟩ := List.forall_mem_cons.mp (events ▸ steady.writes)
    have taken : octets.take (octets.take most).length = octets.take most := by
      rw [List.length_take, ← List.take_eq_take_min]
    refine ⟨⟨steady.reads, others, Or.inr ?_⟩, .some ?_ ?_ ?_⟩
    · show stream.writeRoom.map _ = none
      rw [unlimited]
      rfl
    · have long : 0 < octets.length := List.length_pos_iff.mpr some
      have positive : most ≠ 0 := harmless
      rw [List.length_take]
      omega
    · rw [accepted]
      exact List.length_take_le' most octets
    · rw [taken]
      exact channel_accept (octets.take most) { stream with writeEvents := later }
  · rename_i error later events
    obtain ⟨interrupted, others⟩ := List.forall_mem_cons.mp (events ▸ steady.writes)
    exact ⟨⟨steady.reads, others, Or.inr (steady.unlimited.resolve_left (by simp [events]))⟩,
      .interrupted interrupted rfl⟩

theorem writeAll_carries (octets : Octets) :
    Carries (writeAll octets) (Channel.writeAll octets) := by
  intro stream steady
  fun_induction writeAll octets stream with
  | case1 stream => exact ⟨steady, (Channel.writeAll_nil _).symm⟩
  | case2 octets stream some error next found interrupted shorter inductionHypothesis =>
    obtain ⟨nextSteady, writes⟩ := write_of_steady some steady
    rw [found] at nextSteady writes
    cases writes with
    | interrupted _ same =>
      rw [← same]
      exact inductionHypothesis nextSteady
    | refused lasting _ _ _ => exact absurd interrupted lasting
  | case3 octets stream some error next found lasting =>
    obtain ⟨nextSteady, writes⟩ := write_of_steady some steady
    rw [found] at nextSteady writes
    cases writes with
    | interrupted interrupted _ => exact absurd interrupted lasting
    | refused _ full refusal same =>
      refine ⟨nextSteady, ?_⟩
      rw [Channel.writeAll_of_full some full, refusal, same]
  | case4 octets stream some next found =>
    obtain ⟨nextSteady, writes⟩ := write_of_steady some steady
    rw [found] at nextSteady writes
    cases writes with
    | some positive _ _ => exact absurd rfl positive
    | nothing full refusal same =>
      refine ⟨nextSteady, ?_⟩
      rw [Channel.writeAll_of_full some full, refusal, same]
  | case5 octets stream some count next found shorter inductionHypothesis =>
    obtain ⟨nextSteady, writes⟩ := write_of_steady some steady
    rw [found] at nextSteady writes
    cases writes with
    | some positive fits changed =>
      rw [← Channel.writeAll_accept fits, ← changed]
      exact inductionHypothesis nextSteady

theorem flush_carries : Carries flush Channel.flush := by
  intro stream steady
  have sameRoom : stream.channel.flushRoom = stream.flushRoom := rfl
  rw [flush, Channel.flush, sameRoom]
  cases stream.flushRoom with
  | none => exact ⟨⟨steady.reads, steady.writes, steady.unlimited⟩, rfl⟩
  | some room =>
    cases room <;> exact ⟨⟨steady.reads, steady.writes, steady.unlimited⟩, rfl⟩

end Stream

end WebFetch
