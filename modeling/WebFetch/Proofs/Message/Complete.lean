/-
This file says that a response which is received is complete. Its head came first, and its body is
what the head says it is: as many octets as it tells, all of its chunks, or everything up to the end
of the stream where nothing else tells its end. A stream that ends before that yields no response.
-/

import WebFetch.Proofs.Message.Limits
import WebFetch.Proofs.Stream.Calls

namespace WebFetch

open Message (headEnd)
open StreamCall

/-! ### Complete responses -/

/-- Whether a body is what a framing says of the octets behind a head, of which no more arrive if
they have ended. -/
def Framing.Delimits (ended : Prop) (behind body : Octets) : Framing → Prop
  | .empty => body = []
  | .contentLength length => body.length = length ∧ body <+: behind
  | .chunked => Chunked.Codes behind body
  | .untilClose => ended ∧ body = behind

/-- Whether a response is complete in octets that have arrived, of which no more arrive if they have
ended. -/
def Response.Complete (ended : Prop) (arrived : Octets) (response : Response) : Prop :=
  ∃ headOctets behind head framing, cut headEnd arrived = some (headOctets, behind) ∧
    Head.parse headOctets = .ok head ∧ Framing.ofFields head.status head.fields = .ok framing ∧
    response = head.withBody response.body ∧ framing.Delimits ended behind response.body

/-- Whether calls ended with the stream: with a read that yielded nothing, or that was cut off. -/
def StreamCall.Closed (calls : List StreamCall) : Prop :=
  ∃ before last, calls = before ++ [.read last] ∧
    (last = .ok [] ∨ ∃ error, last = .error error ∧ error.kind = .unexpectedEof)

theorem StreamCall.Closed.append {calls : List StreamCall} (closed : Closed calls)
    (before : List StreamCall) : Closed (before ++ calls) := by
  obtain ⟨middle, last, rfl, ends⟩ := closed
  exact ⟨before ++ middle, last, (List.append_assoc _ _ _).symm, ends⟩

theorem Response.Complete.mono {ended later : Prop} {arrived : Octets} {response : Response}
    (complete : response.Complete ended arrived) (stays : ended → later) :
    response.Complete later arrived := by
  obtain ⟨headOctets, behind, head, framing, found, parsed, framed, same, delimits⟩ := complete
  refine ⟨headOctets, behind, head, framing, found, parsed, framed, same, ?_⟩
  cases framing with
  | untilClose => exact ⟨stays delimits.1, delimits.2⟩
  | empty => exact delimits
  | contentLength length => exact delimits
  | chunked => exact delimits

namespace Receiver

/-! ### Bodies -/

/-- Octets that are found where a length was told are as many. -/
theorem delimits_of_slice? {before behind slice : Octets} {length : Nat}
    (found : slice? (before ++ behind) before.length length = .ok (some slice)) :
    slice.length = length ∧ slice <+: behind := by
  obtain ⟨rfl, inside⟩ := eq_of_slice? found
  rw [List.length_append] at inside
  rw [List.drop_left]
  refine ⟨?_, List.take_prefix _ _⟩
  rw [List.length_take]
  omega

/-- A body that is found before the end of the stream is what its framing says. -/
theorem delimits_of_body? {limits : Limits} {before behind body : Octets} {framing : Framing}
    (found : body? limits (before ++ behind) before.length framing = .ok (some body))
    (ended : Prop) : framing.Delimits ended behind body := by
  cases framing with
  | empty =>
    cases found
    rfl
  | contentLength length =>
    unfold body? at found
    dsimp only at found
    split at found
    · cases found
    · rename_i fits
      exact delimits_of_slice? found
  | chunked =>
    rw [body?, List.drop_left] at found
    exact Chunked.codes_of_decode found
  | untilClose => cases found

/-- A response that is found before the end of the stream is complete. -/
theorem complete_of_response? {limits : Limits} {octets : Octets} {response : Response}
    (found : response? limits octets = .ok (some response)) (ended : Prop) :
    response.Complete ended octets := by
  obtain ⟨headOctets, behind, head, framing, cutAt, parsed, framed, same, bodyFound⟩ :=
    exists_parts_of_response? found
  rw [eq_of_cut headEnd_ne_nil cutAt, ← List.length_append] at bodyFound
  exact ⟨headOctets, behind, head, framing, cutAt, parsed, framed, same,
    delimits_of_body? bodyFound ended⟩

/-- A response that is found at the end of the stream is complete. -/
theorem complete_of_lastResponse {octets : Octets} {response : Response} {ended : Prop}
    (found : lastResponse octets = .ok response) (ends : ended) :
    response.Complete ended octets := by
  obtain ⟨headOctets, behind, head, cutAt, parsed, framed, rfl⟩ :=
    exists_parts_of_lastResponse found
  exact ⟨headOctets, behind, head, .untilClose, cutAt, parsed, framed, rfl, ends, rfl⟩

/-! ### Receiving -/

/-- Octets that are accepted are gathered. -/
theorem eq_of_feed {receiver next : Receiver} {octets : Octets}
    (fed : receiver.feed octets = (.ok (), next)) :
    next = ⟨receiver.limits, receiver.gathered ++ octets⟩ :=
  (congrArg Prod.snd fed).symm.trans (feed_snd receiver octets)

/-- As long as no response is handed out, nothing is dropped. -/
theorem eq_of_next {receiver later : Receiver} (asked : receiver.next = (.ok none, later)) :
    later = receiver := by
  unfold next at asked
  split at asked
  · cases asked
  · exact (congrArg Prod.snd asked).symm

/-- What is received after one more read is received altogether. -/
theorem exists_complete_of_read {stream next last : Stream} {gathered : Octets}
    {response : Response} {result : Except IoError Octets}
    (read : stream.read readSize = (result, next))
    (received : ∃ made, next.After made last ∧
      response.Complete (Closed made)
        (gathered ++ (StreamCall.read result).received ++ allReceived made)) :
    ∃ made, stream.After made last ∧
      response.Complete (Closed made) (gathered ++ allReceived made) := by
  obtain ⟨made, after, complete⟩ := received
  refine ⟨.read result :: made,
    (Stream.after_read (by decide : readSize ≠ 0) read).1.trans after, ?_⟩
  rw [List.append_assoc] at complete
  exact complete.mono fun closed => closed.append [.read result]

/-- A response that is handed out at the end of the stream is complete in what was gathered. -/
theorem exists_complete_of_close {receiver : Receiver} {stream later : Stream} {journal : Journal}
    {response : Response} {result : Except IoError Octets}
    (read : stream.read readSize = (result, later))
    (ends : result = .ok [] ∨ ∃ error, result = .error error ∧ error.kind = .unexpectedEof)
    (found : (receiver.close later journal).result = .ok response) :
    ∃ made, stream.After made later ∧
      response.Complete (Closed made) (receiver.gathered ++ allReceived made) := by
  have nothing : allReceived [.read result] = [] := by
    rcases ends with rfl | ⟨error, rfl, _⟩ <;> rfl
  refine ⟨[.read result], (Stream.after_read (by decide : readSize ≠ 0) read).1, ?_⟩
  rw [nothing, List.append_nil]
  exact complete_of_lastResponse ((finish_fst receiver).symm.trans found) ⟨[], result, rfl, ends⟩

/-- A response that is received is complete in what was gathered before and what the reads
yielded. -/
theorem exists_complete_of_receive {receiver : Receiver} {stream : Stream} {journal : Journal}
    {response : Response} (found : (receiver.receive stream journal).result = .ok response) :
    ∃ made, stream.After made (receiver.receive stream journal).stream ∧
      response.Complete (Closed made) (receiver.gathered ++ allReceived made) := by
  fun_induction receive receiver stream journal with
  | case1 receiver stream journal error later read interrupted less inductionHypothesis =>
    refine exists_complete_of_read read ?_
    rw [StreamCall.received, List.append_nil]
    exact inductionHypothesis found
  | case2 receiver stream journal error later read lasting eof =>
    exact exists_complete_of_close read (Or.inr ⟨error, rfl, eof⟩) found
  | case3 receiver stream journal error later read lasting other => cases found
  | case4 receiver stream journal later read =>
    exact exists_complete_of_close read (Or.inl rfl) found
  | case5 receiver stream journal first rest later read less error fed feeding => cases found
  | case6 receiver stream journal first rest later read less _ fed feeding error asked asking =>
    cases found
  | case7 receiver stream journal first rest later read less count journal _ grown feeding answer
      emptied asking =>
    cases found
    obtain rfl := eq_of_feed feeding
    have answered := (next_fst _).symm.trans (congrArg Prod.fst asking)
    refine exists_complete_of_read read ⟨[], Stream.after_nil later, ?_⟩
    rw [allReceived, List.flatMap_nil, List.append_nil]
    exact complete_of_response? answered _
  | case8 receiver stream journal first rest later read less count journal _ grown feeding same
      asking inductionHypothesis =>
    obtain rfl := eq_of_feed feeding
    obtain rfl := eq_of_next asking
    exact exists_complete_of_read read (inductionHypothesis found)

end Receiver

end WebFetch
