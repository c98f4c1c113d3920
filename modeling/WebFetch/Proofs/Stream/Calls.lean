/-
This file is about the calls made on a stream. What was received and what was sent can be read off
from them, and so can whether a call failed. Reading octets makes reads as long as octets are
needed, writing octets makes writes of which the octets are sent in order, and a call that fails is
the last one.
-/

import WebFetch.Stream.Basic

namespace WebFetch

/-! ### Calls -/

namespace StreamCall

/-- The octets that a call yields. -/
def received : StreamCall → Octets
  | .read (.ok octets) => octets
  | .read (.error _) => []
  | .write _ => []
  | .flush _ => []

/-- The octets that a call passes to the other side. -/
def sent : StreamCall → Octets
  | .write (.ok octets) => octets
  | .write (.error _) => []
  | .read _ => []
  | .flush _ => []

/-- Whether a call fails. A read that yields nothing and a write that takes nothing do; a read or a
write that is interrupted does not, as it is repeated. -/
def Fails : StreamCall → Prop
  | .read (.ok octets) => octets = []
  | .read (.error error) => error.kind ≠ .interrupted
  | .write (.ok octets) => octets = []
  | .write (.error error) => error.kind ≠ .interrupted
  | .flush (.ok ()) => False
  | .flush (.error _) => True

def IsRead (call : StreamCall) : Prop := ∃ result, call = .read result

/-- The octets that calls yield. -/
def allReceived (calls : List StreamCall) : Octets := calls.flatMap received

/-- The octets that calls pass to the other side. -/
def allSent (calls : List StreamCall) : Octets := calls.flatMap sent

/-- Whether no call fails. -/
def AllSucceed (calls : List StreamCall) : Prop := ∀ call ∈ calls, ¬ call.Fails

/-- Whether the last call fails, and no other. -/
def LastFails (calls : List StreamCall) : Prop :=
  ∃ before call, calls = before ++ [call] ∧ AllSucceed before ∧ call.Fails

theorem allReceived_append (first second : List StreamCall) :
    allReceived (first ++ second) = allReceived first ++ allReceived second :=
  List.flatMap_append

theorem allSent_append (first second : List StreamCall) :
    allSent (first ++ second) = allSent first ++ allSent second :=
  List.flatMap_append

theorem allSent_of_isPrefix {first second : List StreamCall} (part : first <+: second) :
    allSent first <+: allSent second := by
  obtain ⟨others, rfl⟩ := part
  rw [allSent_append]
  exact List.prefix_append _ _

/-- Calls that are not reads yield nothing. -/
theorem allReceived_eq_nil {calls : List StreamCall} (noRead : ∀ call ∈ calls, ¬ call.IsRead) :
    allReceived calls = [] := by
  rw [allReceived, List.flatMap_eq_nil_iff]
  intro call member
  cases call with
  | read result => exact absurd ⟨result, rfl⟩ (noRead _ member)
  | write result => rfl
  | flush result => rfl

/-- Reads pass nothing to the other side. -/
theorem allSent_eq_nil {calls : List StreamCall} (onlyReads : ∀ call ∈ calls, call.IsRead) :
    allSent calls = [] := by
  rw [allSent, List.flatMap_eq_nil_iff]
  intro call member
  obtain ⟨result, rfl⟩ := onlyReads call member
  rfl

theorem allSucceed_nil : AllSucceed [] :=
  fun _ member => nomatch member

theorem AllSucceed.append {first second : List StreamCall} (firstSucceed : AllSucceed first)
    (secondSucceed : AllSucceed second) : AllSucceed (first ++ second) :=
  fun call member => (List.mem_append.mp member).elim (firstSucceed call) (secondSucceed call)

theorem AllSucceed.cons {call : StreamCall} {calls : List StreamCall} (succeeds : ¬ call.Fails)
    (allSucceed : AllSucceed calls) : AllSucceed (call :: calls) :=
  List.forall_mem_cons.mpr ⟨succeeds, allSucceed⟩

theorem lastFails_singleton {call : StreamCall} (fails : call.Fails) : LastFails [call] :=
  ⟨[], call, rfl, allSucceed_nil, fails⟩

/-- Calls that succeed may come before. -/
theorem LastFails.append {first second : List StreamCall} (lastFails : LastFails second)
    (firstSucceed : AllSucceed first) : LastFails (first ++ second) := by
  obtain ⟨before, call, rfl, succeed, fails⟩ := lastFails
  exact ⟨first ++ before, call, (List.append_assoc _ _ _).symm, firstSucceed.append succeed, fails⟩

/-- A call that fails yields nothing. -/
theorem received_of_fails {call : StreamCall} (fails : call.Fails) : call.received = [] := by
  cases call with
  | read result =>
    cases result with
    | ok octets => exact fails
    | error error => rfl
  | write result => rfl
  | flush result => rfl

end StreamCall

namespace Stream

open StreamCall

/-! ### Streams after calls -/

/-- Whether a stream has come from another by calls. -/
structure After (start : Stream) (made : List StreamCall) (stream : Stream) : Prop where
  calls : stream.calls = start.calls ++ made
  written : stream.written = start.written ++ allSent made

theorem after_nil (stream : Stream) : stream.After [] stream :=
  ⟨(List.append_nil _).symm, (List.append_nil _).symm⟩

theorem After.trans {start middle stream : Stream} {first second : List StreamCall}
    (before : start.After first middle) (after : middle.After second stream) :
    start.After (first ++ second) stream := by
  refine ⟨?_, ?_⟩
  · rw [after.calls, before.calls, List.append_assoc]
  · rw [after.written, before.written, allSent_append, List.append_assoc]

/-- A call that is recorded together with the octets it sends is the last one. -/
theorem after_record {start stream : Stream} {call : StreamCall}
    (calls : stream.callsReversed = start.callsReversed)
    (written : stream.writtenReversed = call.sent.reverse ++ start.writtenReversed) :
    start.After [call] (stream.record call) := by
  refine ⟨?_, ?_⟩
  · show (call :: stream.callsReversed).reverse = start.callsReversed.reverse ++ [call]
    rw [calls, List.reverse_cons]
  · show stream.writtenReversed.reverse = start.writtenReversed.reverse ++ allSent [call]
    rw [written, List.reverse_append, List.reverse_reverse, allSent, List.flatMap_singleton]

/-! ### Reading -/

/-- One read yields no more than was asked for. -/
theorem length_readEvents_le {chunk capacity : Nat} {written : Unit → Octets}
    {events later : List ReadEvent} {octets : Octets}
    (found : readEvents chunk capacity written events = (.ok octets, later)) :
    octets.length ≤ capacity := by
  induction events with
  | nil =>
    cases found
    exact Nat.zero_le _
  | cons event events inductionHypothesis =>
    match event with
    | .fail error => cases found
    | .wait ready =>
      rw [readEvents] at found
      split at found
      · exact inductionHypothesis found
      · cases found
    | .arrive [] => exact inductionHypothesis found
    | .arrive (first :: rest) =>
      rw [readEvents] at found
      cases found
      rw [List.length_take]
      split <;> omega

/-- One read is one call. -/
theorem after_read {capacity : Nat} {stream next : Stream} {result : Except IoError Octets}
    (positive : capacity ≠ 0) (found : stream.read capacity = (result, next)) :
    stream.After [.read result] next ∧
      ∀ octets, result = .ok octets → octets.length ≤ capacity := by
  rw [read, if_neg positive] at found
  cases found
  refine ⟨after_record rfl rfl, fun octets same => ?_⟩
  exact length_readEvents_le (Prod.ext same rfl)

/-- Whether calls are reads, each of which is made when fewer octets than are needed were
received. -/
def ReadsFor (needed : Nat) (calls : List StreamCall) : Prop :=
  ∀ past call, past ++ [call] <+: calls → call.IsRead ∧ (allReceived past).length < needed

theorem readsFor_nil (needed : Nat) : ReadsFor needed [] := by
  intro past call part
  rw [List.prefix_nil] at part
  cases past <;> cases part

/-- One more read comes first. -/
theorem ReadsFor.cons {needed : Nat} {calls : List StreamCall} {result : Except IoError Octets}
    (positive : needed ≠ 0)
    (reads : ReadsFor (needed - (StreamCall.read result).received.length) calls) :
    ReadsFor needed (.read result :: calls) := by
  intro past call part
  cases past with
  | nil =>
    obtain ⟨same, _⟩ := List.cons_prefix_cons.mp part
    exact ⟨⟨result, same⟩, Nat.pos_of_ne_zero positive⟩
  | cons first past =>
    obtain ⟨rfl, later⟩ := List.cons_prefix_cons.mp part
    obtain ⟨isRead, short⟩ := reads past call later
    refine ⟨isRead, ?_⟩
    rw [allReceived, List.flatMap_cons, List.length_append]
    rw [allReceived] at short
    omega

/-- What calls and a result have to do with each other when `needed` octets are read. -/
def ReadsExactly (needed : Nat) (calls : List StreamCall) : Except IoError Octets → Prop
  | .ok octets => octets = allReceived calls ∧ octets.length = needed ∧ AllSucceed calls
  | .error _ => (allReceived calls).length < needed ∧ LastFails calls

/-- Octets are read by reads, until there are enough of them or one fails. -/
theorem exists_after_readExactFrom (needed : Nat) (gathered : Octets) (stream : Stream) :
    ∃ made, stream.After made (stream.readExactFrom needed gathered).2 ∧ ReadsFor needed made ∧
      match (stream.readExactFrom needed gathered).1 with
      | .ok octets => octets = gathered.reverse ++ allReceived made ∧
          (allReceived made).length = needed ∧ AllSucceed made
      | .error _ => (allReceived made).length < needed ∧ LastFails made := by
  fun_induction readExactFrom needed gathered stream with
  | case1 gathered stream =>
    exact ⟨[], after_nil stream, readsFor_nil 0, (List.append_nil _).symm, rfl, allSucceed_nil⟩
  | case2 needed gathered stream positive error next found interrupted shorter
      inductionHypothesis =>
    obtain ⟨made, after, reads, result⟩ := inductionHypothesis
    have succeeds : ¬ (StreamCall.read (.error error)).Fails := fun lasting => lasting interrupted
    refine ⟨.read (.error error) :: made, (after_read positive found).1.trans after,
      ReadsFor.cons positive reads, ?_⟩
    split at result
    · exact ⟨result.1, result.2.1, result.2.2.cons succeeds⟩
    · exact ⟨result.1, result.2.append (allSucceed_nil.cons succeeds)⟩
  | case3 needed gathered stream positive error next found lasting =>
    exact ⟨[.read (.error error)], (after_read positive found).1,
      ReadsFor.cons positive (readsFor_nil _), Nat.pos_of_ne_zero positive,
      lastFails_singleton lasting⟩
  | case4 needed gathered stream positive next found =>
    exact ⟨[.read (.ok [])], (after_read positive found).1,
      ReadsFor.cons positive (readsFor_nil _), Nat.pos_of_ne_zero positive,
      lastFails_singleton rfl⟩
  | case5 needed gathered stream positive first rest next found shorter inductionHypothesis =>
    obtain ⟨made, after, reads, result⟩ := inductionHypothesis
    obtain ⟨one, bounded⟩ := after_read positive found
    have small : rest.length + 1 ≤ needed := bounded _ rfl
    have succeeds : ¬ (StreamCall.read (.ok (first :: rest))).Fails := List.cons_ne_nil _ _
    have received : allReceived (.read (.ok (first :: rest)) :: made) =
        first :: rest ++ allReceived made := List.flatMap_cons
    refine ⟨.read (.ok (first :: rest)) :: made, one.trans after, ReadsFor.cons positive reads, ?_⟩
    rw [received, List.length_append, List.length_cons]
    split at result
    · obtain ⟨rfl, enough, succeed⟩ := result
      refine ⟨?_, by omega, succeed.cons succeeds⟩
      rw [List.reverse_append, List.reverse_reverse, List.append_assoc]
    · exact ⟨by omega, result.2.append (allSucceed_nil.cons succeeds)⟩

/-- Octets are read by reads, until there are enough of them or one fails. -/
theorem exists_after_readExact (needed : Nat) (stream : Stream) :
    ∃ made, stream.After made (stream.readExact needed).2 ∧ ReadsFor needed made ∧
      ReadsExactly needed made (stream.readExact needed).1 := by
  obtain ⟨made, after, reads, result⟩ := exists_after_readExactFrom needed [] stream
  refine ⟨made, after, reads, ?_⟩
  rw [readExact]
  split at result
  · rename_i octets same
    obtain ⟨whole, enough, succeed⟩ := result
    rw [List.reverse_nil, List.nil_append] at whole
    rw [same]
    exact ⟨whole, whole ▸ enough, succeed⟩
  · rename_i same
    rw [same]
    exact result

/-! ### Writing -/

/-- One write is one call, and the octets that it takes are the first ones. -/
theorem after_write (octets : Octets) (stream : Stream) :
    (∃ error next, stream.write octets = (.error error, next) ∧
      stream.After [.write (.error error)] next) ∨
    ∃ count next, stream.write octets = (.ok count, next) ∧
      stream.After [.write (.ok (octets.take count))] next := by
  unfold write
  split
  · rw [writeSteadily]
    split
    · split
      · split
        · exact Or.inr ⟨0, _, rfl, after_record rfl rfl⟩
        · exact Or.inl ⟨_, _, rfl, after_record rfl rfl⟩
      · exact Or.inr ⟨0, _, rfl, after_record rfl rfl⟩
    · exact Or.inr ⟨_, _, rfl, after_record rfl rfl⟩
  · refine Or.inr ⟨_, _, rfl, ?_⟩
    rw [List.length_take, ← List.take_eq_take_min]
    exact after_record rfl rfl
  · exact Or.inl ⟨_, _, rfl, after_record rfl rfl⟩

/-- What calls and a result have to do with each other when octets are written. -/
def WritesAll (octets : Octets) (calls : List StreamCall) : Except IoError Unit → Prop
  | .ok () => allSent calls = octets ∧ AllSucceed calls
  | .error _ => allSent calls <+: octets ∧ LastFails calls

/-- One more write comes first. -/
theorem WritesAll.cons {octets : Octets} {count : Nat} {calls : List StreamCall}
    {result : Except IoError Unit} (some : octets.take count ≠ [])
    (writes : WritesAll (octets.drop count) calls result) :
    WritesAll octets (.write (.ok (octets.take count)) :: calls) result := by
  have sent : allSent (.write (.ok (octets.take count)) :: calls) =
      octets.take count ++ allSent calls := List.flatMap_cons
  cases result with
  | ok done =>
    refine ⟨?_, writes.2.cons some⟩
    rw [sent, writes.1, List.take_append_drop]
  | error error =>
    have succeeds : ¬ (StreamCall.write (.ok (octets.take count))).Fails := some
    refine ⟨?_, writes.2.append (allSucceed_nil.cons succeeds)⟩
    obtain ⟨missing, whole⟩ := writes.1
    exact ⟨missing, by rw [sent, List.append_assoc, whole, List.take_append_drop]⟩

/-- Octets are written by writes, until all are taken or one fails. -/
theorem exists_after_writeAll (octets : Octets) (stream : Stream) :
    ∃ made, stream.After made (stream.writeAll octets).2 ∧ (∀ call ∈ made, ¬ call.IsRead) ∧
      WritesAll octets made (stream.writeAll octets).1 := by
  have write (result : Except IoError Octets) : ¬ (StreamCall.write result).IsRead :=
    fun ⟨_, same⟩ => nomatch same
  fun_induction writeAll octets stream with
  | case1 stream =>
    exact ⟨[], after_nil stream, List.forall_mem_nil _, rfl, allSucceed_nil⟩
  | case2 octets stream some error next found interrupted shorter inductionHypothesis =>
    obtain ⟨made, after, noRead, result⟩ := inductionHypothesis
    rcases after_write octets stream with ⟨_, _, same, one⟩ | ⟨_, _, same, _⟩
    · rw [found] at same
      cases same
      have succeeds : ¬ (StreamCall.write (.error error)).Fails := fun lasting =>
        lasting interrupted
      refine ⟨.write (.error error) :: made, one.trans after,
        List.forall_mem_cons.mpr ⟨write _, noRead⟩, ?_⟩
      cases done : (next.writeAll octets).1 with
      | ok =>
        rw [done] at result
        exact ⟨result.1, result.2.cons succeeds⟩
      | error =>
        rw [done] at result
        exact ⟨result.1, result.2.append (allSucceed_nil.cons succeeds)⟩
    · rw [found] at same
      cases same
  | case3 octets stream some error next found lasting =>
    rcases after_write octets stream with ⟨_, _, same, one⟩ | ⟨_, _, same, _⟩
    · rw [found] at same
      cases same
      exact ⟨_, one, List.forall_mem_singleton.mpr (write _), List.nil_prefix,
        lastFails_singleton lasting⟩
    · rw [found] at same
      cases same
  | case4 octets stream some next found =>
    rcases after_write octets stream with ⟨_, _, same, _⟩ | ⟨_, _, same, one⟩
    · rw [found] at same
      cases same
    · rw [found] at same
      cases same
      exact ⟨_, one, List.forall_mem_singleton.mpr (write _), List.nil_prefix,
        lastFails_singleton rfl⟩
  | case5 octets stream some count next found shorter inductionHypothesis =>
    obtain ⟨made, after, noRead, result⟩ := inductionHypothesis
    rcases after_write octets stream with ⟨_, _, same, _⟩ | ⟨_, _, same, one⟩
    · rw [found] at same
      cases same
    · rw [found] at same
      cases same
      have taken : octets.take (count + 1) ≠ [] := fun nothing =>
        (List.take_eq_nil_iff.mp nothing).elim (Nat.succ_ne_zero count) some
      exact ⟨_, one.trans after, List.forall_mem_cons.mpr ⟨write _, noRead⟩, result.cons taken⟩

/-- Passing on what was written is one call. -/
theorem after_flush (stream : Stream) :
    stream.After [.flush stream.flush.1] stream.flush.2 := by
  unfold flush
  split
  all_goals exact after_record rfl rfl

end Stream

end WebFetch
