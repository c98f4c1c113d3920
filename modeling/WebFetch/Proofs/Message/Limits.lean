/-
This file says what the limits of a receiver amount to, whatever is asked of it in whatever order.
A response never has more octets than were gathered, and while no octets were refused these are no
more than a head and a body may have together. The limit of the body holds of every response that is
handed out before the end of the connection. A head that arrives together with its end is not held
against its limit, though, and neither is a body that ends with the connection.
-/

import WebFetch.Proofs.Message.Receiver
import WebFetch.Sequenced

namespace WebFetch

/-! ### Bodies that are found -/

/-- A body that is decoded fits the room for it, and is no longer than its coding. -/
theorem Chunked.length_le_of_decodeFrom {room offset : Nat} {pieces : List Octets}
    {octets body : Octets} (found : decodeFrom room offset pieces octets = .ok (some body)) :
    body.length ≤ pieces.flatten.length + room ∧
      body.length ≤ pieces.flatten.length + octets.length := by
  generalize counted : octets.length = count
  induction count using Nat.strongRecOn generalizing room offset pieces octets with
  | ind count inductionHypothesis =>
    subst counted
    cases cutAt : cut Message.lineEnd octets with
    | none =>
      rw [decodeFrom_of_uncut room offset pieces cutAt] at found
      cases found
    | some parts =>
      obtain ⟨line, behind⟩ := parts
      have shorter : behind.length < octets.length := length_lt_of_cutFrom cutAt
      rw [decodeFrom_of_cut room offset pieces cutAt, decodeLine] at found
      cases sized : size? line with
      | none =>
        rw [sized] at found
        cases found
      | some size =>
        rw [sized] at found
        cases size with
        | zero =>
          dsimp only at found
          split at found
          · cases found
            have same : pieces.reverse.flatten.length = pieces.flatten.length :=
              (List.reverse_perm pieces).flatten.length_eq
            omega
          · cases found
        | succ size =>
          obtain ⟨chunk, later, rfl, length, fits, found⟩ := exists_chunk_of_decodeChunk found
          rw [List.length_append, List.length_append] at shorter
          obtain ⟨inRoom, inOctets⟩ := inductionHypothesis later.length (by omega) found rfl
          rw [List.flatten_cons, List.length_append] at inRoom inOctets
          omega

namespace Receiver

open Message (headEnd)

/-- Octets that end at an offset of 64 bits are found once they were gathered. -/
theorem slice?_of_addressable (octets : Octets) {start length : Nat}
    (addressable : start + length < wordLimit) :
    slice? octets start length =
      if octets.length < start + length then .ok none
      else .ok (some ((octets.drop start).take length)) :=
  if_neg (Nat.not_le.mpr addressable)

/-- Octets that would end behind all offsets of 64 bits stop the program. -/
theorem slice?_of_overflow (octets : Octets) {start length : Nat}
    (beyond : wordLimit ≤ start + length) : slice? octets start length = .error .overflow :=
  if_pos beyond

/-- Octets that are found are as many as were asked for, from their start on. -/
theorem eq_of_slice? {octets slice : Octets} {start length : Nat}
    (found : slice? octets start length = .ok (some slice)) :
    slice = (octets.drop start).take length ∧ start + length ≤ octets.length := by
  unfold slice? at found
  split at found
  · cases found
  · split at found
    · cases found
    · rename_i whole
      cases found
      exact ⟨rfl, Nat.le_of_not_lt whole⟩

/-- A body that is found before the end of the connection is within its limit, and no longer than
what follows the head. -/
theorem length_le_of_body? {limits : Limits} {octets body : Octets} {start : Nat}
    {framing : Framing} (within : start ≤ octets.length)
    (found : body? limits octets start framing = .ok (some body)) :
    body.length ≤ limits.body ∧ start + body.length ≤ octets.length := by
  cases framing with
  | empty =>
    cases found
    exact ⟨Nat.zero_le _, within⟩
  | untilClose => cases found
  | contentLength length =>
    unfold body? at found
    dsimp only at found
    split at found
    · cases found
    · rename_i small
      obtain ⟨rfl, inside⟩ := eq_of_slice? found
      rw [List.length_take, List.length_drop]
      omega
  | chunked =>
    obtain ⟨inRoom, inOctets⟩ := Chunked.length_le_of_decodeFrom found
    rw [List.length_drop] at inOctets
    simp only [List.flatten_nil, List.length_nil] at inRoom inOctets
    omega

/-- A response that is found has the head that ends first, and the body that is found behind it. -/
theorem exists_parts_of_response? {limits : Limits} {octets : Octets} {response : Response}
    (found : response? limits octets = .ok (some response)) :
    ∃ headOctets behind head framing, cut headEnd octets = some (headOctets, behind) ∧
      Head.parse headOctets = .ok head ∧ Framing.ofFields head.status head.fields = .ok framing ∧
      response = head.withBody response.body ∧
      body? limits octets (headOctets.length + headEnd.length) framing =
        .ok (some response.body) := by
  match cutAt : cut headEnd octets with
  | none =>
    rw [response?, cutAt] at found
    dsimp only at found
    split at found <;> cases found
  | some (headOctets, behind) =>
    rw [response?_of_cut limits cutAt] at found
    obtain ⟨head, parsed, found⟩ := exists_ok_of_bind found
    obtain ⟨framing, framed, found⟩ := exists_ok_of_bind found
    obtain ⟨body, bodyFound, found⟩ := exists_ok_of_bind found
    obtain ⟨octetsOfBody, rfl, rfl⟩ := Option.map_eq_some_iff.mp (Except.ok.inj found)
    exact ⟨headOctets, behind, head, framing, rfl, parsed, framed, rfl, bodyFound⟩

/-- A response that is found has a body within its limit, and is no longer than what was
gathered. -/
theorem exists_head_of_response? {limits : Limits} {octets : Octets} {response : Response}
    (found : response? limits octets = .ok (some response)) :
    ∃ headOctets behind, cut headEnd octets = some (headOctets, behind) ∧
      response.body.length ≤ limits.body ∧
      headOctets.length + headEnd.length + response.body.length ≤ octets.length := by
  obtain ⟨headOctets, behind, head, framing, cutAt, _, _, _, bodyFound⟩ :=
    exists_parts_of_response? found
  have within : headOctets.length + headEnd.length ≤ octets.length := by
    rw [eq_of_cut headEnd_ne_nil cutAt, List.length_append, List.length_append]
    omega
  exact ⟨headOctets, behind, cutAt, length_le_of_body? within bodyFound⟩

/-- The last response has the head that ends first, which tells that the body ends with the
connection, and all that follows as its body. -/
theorem exists_parts_of_lastResponse {octets : Octets} {response : Response}
    (found : lastResponse octets = .ok response) :
    ∃ headOctets behind head, cut headEnd octets = some (headOctets, behind) ∧
      Head.parse headOctets = .ok head ∧
      Framing.ofFields head.status head.fields = .ok .untilClose ∧
      response = head.withBody behind := by
  unfold lastResponse at found
  split at found
  · cases found
  · rename_i headOctets behind cutAt
    obtain ⟨head, parsed, found⟩ := exists_ok_of_bind found
    obtain ⟨framing, framed, found⟩ := exists_ok_of_bind found
    cases framing with
    | untilClose =>
      cases found
      exact ⟨headOctets, behind, head, cutAt, parsed, framed, rfl⟩
    | contentLength length => cases found
    | chunked => cases found
    | empty => cases found

/-! ### Calls -/

/-- What can be asked of a receiver. -/
inductive Call where
  | feed (octets : Octets)
  | next
  | finish
  deriving DecidableEq, Repr

/-- What comes of a call. -/
inductive Outcome where
  | fed (result : Except MessageError Unit)
  | asked (result : Except MessageError (Option Response))
  | finished (result : Except MessageError Response)

/-- The response that is handed out, if any. -/
def Outcome.response? : Outcome → Option Response
  | .fed _ => none
  | .asked result => result.toOption.join
  | .finished result => result.toOption

/-- Whether octets were refused. -/
def Outcome.Refuses (outcome : Outcome) : Prop := ∃ error, outcome = .fed (.error error)

def Call.make (receiver : Receiver) : Call → Outcome × Receiver
  | .feed octets => (.fed (receiver.feed octets).1, (receiver.feed octets).2)
  | .next => (.asked receiver.next.1, receiver.next.2)
  | .finish => (.finished receiver.finish.1, receiver.finish.2)

/-- What comes of calls, one after the other, and the receiver after them. -/
def run (receiver : Receiver) : List Call → List Outcome × Receiver
  | [] => ([], receiver)
  | call :: later =>
    ((call.make receiver).1 :: ((call.make receiver).2.run later).1,
      ((call.make receiver).2.run later).2)

theorem feed_snd (receiver : Receiver) (octets : Octets) :
    (receiver.feed octets).2 = ⟨receiver.limits, receiver.gathered ++ octets⟩ := by
  unfold feed
  dsimp only
  split <;> rfl

theorem next_fst (receiver : Receiver) :
    receiver.next.1 = Receiver.response? receiver.limits receiver.gathered := by
  unfold next
  split
  · rename_i found
    exact found.symm
  · rfl

/-- Asking for a response leaves what was gathered, or nothing if one is handed out. -/
theorem next_snd (receiver : Receiver) :
    receiver.next.2 = receiver ∨ receiver.next.2 = new receiver.limits := by
  unfold next
  split
  · exact Or.inr rfl
  · exact Or.inl rfl

theorem finish_snd (receiver : Receiver) :
    receiver.finish.2 = receiver ∨ receiver.finish.2 = new receiver.limits := by
  unfold finish
  split
  · exact Or.inr rfl
  · exact Or.inl rfl

theorem limits_make (receiver : Receiver) (call : Call) :
    (call.make receiver).2.limits = receiver.limits := by
  cases call with
  | feed octets => rw [Call.make, feed_snd]
  | next =>
    rcases receiver.next_snd with same | same <;> rw [Call.make, same]
    rfl
  | finish =>
    rcases receiver.finish_snd with same | same <;> rw [Call.make, same]
    rfl

/-- The limits never change. -/
theorem limits_run (receiver : Receiver) (calls : List Call) :
    (receiver.run calls).2.limits = receiver.limits := by
  induction calls generalizing receiver with
  | nil => rfl
  | cons call later inductionHypothesis =>
    rw [run, inductionHypothesis, limits_make]

/-- A call that does not refuse octets leaves no more than may be gathered. -/
theorem length_gathered_make_le {receiver : Receiver} {call : Call}
    (few : receiver.gathered.length ≤ receiver.limits.total)
    (accepted : ¬ (call.make receiver).1.Refuses) :
    (call.make receiver).2.gathered.length ≤ (call.make receiver).2.limits.total := by
  cases call with
  | feed octets =>
    by_cases many : receiver.limits.total < (receiver.gathered ++ octets).length
    · exact absurd ⟨.tooLarge, congrArg Outcome.fed (congrArg Prod.fst (if_pos many))⟩ accepted
    · rw [Call.make, feed_snd]
      exact Nat.le_of_not_lt many
  | next =>
    rcases receiver.next_snd with same | same <;> rw [Call.make, same]
    · exact few
    · exact Nat.zero_le _
  | finish =>
    rcases receiver.finish_snd with same | same <;> rw [Call.make, same]
    · exact few
    · exact Nat.zero_le _

/-- While no octets are refused, no more are gathered than a head and a body may have. -/
theorem length_gathered_run_le {receiver : Receiver} {calls : List Call}
    (few : receiver.gathered.length ≤ receiver.limits.total)
    (accepted : ∀ outcome ∈ (receiver.run calls).1, ¬ outcome.Refuses) :
    (receiver.run calls).2.gathered.length ≤ (receiver.run calls).2.limits.total := by
  induction calls generalizing receiver with
  | nil => exact few
  | cons call later inductionHypothesis =>
    obtain ⟨first, others⟩ := List.forall_mem_cons.mp accepted
    exact inductionHypothesis (length_gathered_make_le few first) others

/-! ### Responses that are handed out -/

/-- Whether a response that a receiver hands out is within the limits: what was gathered before the
first end of a head, and the body. -/
def WithinLimits (receiver : Receiver) (response : Response) : Prop :=
  ∃ headOctets behind, cut headEnd receiver.gathered = some (headOctets, behind) ∧
    headOctets.length ≤ receiver.limits.head ∧ response.body.length ≤ receiver.limits.body

/-- A response that is handed out was found in what was gathered. -/
theorem found_of_make {receiver : Receiver} {call : Call} {response : Response}
    (handed : (call.make receiver).1.response? = some response) :
    call = .next ∧ Receiver.response? receiver.limits receiver.gathered = .ok (some response) ∨
      call = .finish ∧ lastResponse receiver.gathered = .ok response := by
  cases call with
  | feed octets => cases handed
  | next =>
    rw [Call.make, Outcome.response?, next_fst] at handed
    match found : Receiver.response? receiver.limits receiver.gathered with
    | .error error =>
      rw [found] at handed
      cases handed
    | .ok response? =>
      rw [found] at handed
      obtain rfl : response? = some response := handed
      exact Or.inl ⟨rfl, rfl⟩
  | finish =>
    rw [Call.make, Outcome.response?, finish_fst] at handed
    match found : lastResponse receiver.gathered with
    | .error error =>
      rw [found] at handed
      cases handed
    | .ok other =>
      rw [found] at handed
      cases handed
      exact Or.inr ⟨rfl, rfl⟩

/-- A response that is handed out has the head that ends first. Its body is within its limit, or is
all that follows the head. -/
theorem exists_head_of_make {receiver : Receiver} {call : Call} {response : Response}
    (handed : (call.make receiver).1.response? = some response) :
    ∃ headOctets behind, cut headEnd receiver.gathered = some (headOctets, behind) ∧
      headOctets.length + headEnd.length + response.body.length ≤ receiver.gathered.length ∧
      (call = .next ∧ response.body.length ≤ receiver.limits.body ∨
        call = .finish ∧ response.body = behind) := by
  rcases found_of_make handed with ⟨asked, found⟩ | ⟨finished, found⟩
  · obtain ⟨headOctets, behind, cutAt, inLimit, inside⟩ := exists_head_of_response? found
    exact ⟨headOctets, behind, cutAt, inside, Or.inl ⟨asked, inLimit⟩⟩
  · obtain ⟨headOctets, behind, head, cutAt, _, _, rfl⟩ := exists_parts_of_lastResponse found
    have size := congrArg List.length (eq_of_cut headEnd_ne_nil cutAt)
    rw [List.length_append, List.length_append] at size
    exact ⟨headOctets, behind, cutAt, Nat.le_of_eq size.symm, Or.inr ⟨finished, rfl⟩⟩

/-- Whatever was asked of a receiver before, a response that it hands out is no longer than what was
gathered, and while no octets were refused no longer than a head and a body may be together; a body
that is handed out before the end of the connection is within its limit. The response is within the
limits exactly if its head is and, at the end of the connection, what follows the head. -/
theorem handedOut_bounded (limits : Limits) (earlier : List Call) (call : Call)
    (response : Response)
    (handed : (call.make ((new limits).run earlier).2).1.response? = some response) :
    let receiver := ((new limits).run earlier).2
    ∃ headOctets behind, cut headEnd receiver.gathered = some (headOctets, behind) ∧
      headOctets.length + headEnd.length + response.body.length ≤ receiver.gathered.length ∧
      ((∀ outcome ∈ ((new limits).run earlier).1, ¬ outcome.Refuses) →
        headOctets.length + headEnd.length + response.body.length ≤ limits.head + limits.body) ∧
      (call = .next → response.body.length ≤ limits.body) ∧
      (WithinLimits receiver response ↔
        headOctets.length ≤ limits.head ∧ (call = .finish → behind.length ≤ limits.body)) := by
  intro receiver
  have sameLimits : receiver.limits = limits := limits_run (new limits) earlier
  obtain ⟨headOctets, behind, cutAt, inside, body⟩ := exists_head_of_make handed
  rw [sameLimits] at body
  refine ⟨headOctets, behind, cutAt, inside, fun accepted => ?_, fun asked => ?_, ?_⟩
  · have few := @length_gathered_run_le (new limits) earlier (Nat.zero_le _) accepted
    rw [limits_run] at few
    exact Nat.le_trans inside (Nat.le_trans few (Nat.min_le_left _ _))
  · rcases body with ⟨_, inLimit⟩ | ⟨finished, _⟩
    · exact inLimit
    · rw [asked] at finished
      cases finished
  · constructor
    · rintro ⟨sameHead, sameBehind, sameCut, headFits, bodyFits⟩
      rw [cutAt] at sameCut
      cases sameCut
      rw [sameLimits] at headFits bodyFits
      refine ⟨headFits, fun finished => ?_⟩
      rcases body with ⟨asked, _⟩ | ⟨_, whole⟩
      · rw [finished] at asked
        cases asked
      · exact whole ▸ bodyFits
    · rintro ⟨headFits, bodyFits⟩
      refine ⟨headOctets, behind, cutAt, ?_, ?_⟩
      · rwa [sameLimits]
      · rw [sameLimits]
        rcases body with ⟨_, inLimit⟩ | ⟨finished, whole⟩
        · exact inLimit
        · exact whole ▸ bodyFits finished

/-- A response without a body, with a head of 23 octets. -/
def bareResponse : Octets := Ascii.octets "HTTP/1.1 204 No Content\r\n\r\n"

/-- A response with a body of eight octets that ends with the connection. -/
def closingResponse : Octets := Ascii.octets "HTTP/1.1 200 OK\r\n\r\nabcdefgh"

theorem handedOut_bounded_closingResponse :
    let receiver := ((new ⟨64, 4⟩).run [.feed closingResponse, .next]).2
    (Call.finish.make receiver).1.response? =
        some ⟨"HTTP/1.1", 200, "OK", [], Ascii.octets "abcdefgh"⟩ ∧
      ¬ WithinLimits receiver ⟨"HTTP/1.1", 200, "OK", [], Ascii.octets "abcdefgh"⟩ := by
  intro receiver
  have handed : (Call.finish.make receiver).1.response? =
      some ⟨"HTTP/1.1", 200, "OK", [], Ascii.octets "abcdefgh"⟩ := by decide +kernel
  obtain ⟨headOctets, behind, cutAt, _, _, _, exactly⟩ :=
    handedOut_bounded ⟨64, 4⟩ [.feed closingResponse, .next] .finish _ handed
  have whole : cut headEnd receiver.gathered =
      some (Ascii.octets "HTTP/1.1 200 OK", Ascii.octets "abcdefgh") := by decide +kernel
  cases whole.symm.trans cutAt
  exact ⟨handed, fun within => absurd ((exactly.mp within).2 rfl) (by decide)⟩

/-- Not every response that is handed out is within the limits: a head that arrives with its end is
taken however long it is, and so is a body that ends with the connection. -/
theorem not_handedOut_within :
    ¬ ∀ (limits : Limits) (earlier : List Call) (call : Call) (response : Response),
      (call.make ((new limits).run earlier).2).1.response? = some response →
        WithinLimits ((new limits).run earlier).2 response := by
  intro within
  have handed : (Call.next.make ((new ⟨16, 16⟩).run [.feed bareResponse]).2).1.response? =
      some ⟨"HTTP/1.1", 204, "No Content", [], []⟩ := by decide +kernel
  obtain ⟨headOctets, behind, cutAt, headFits, _⟩ := within _ _ _ _ handed
  have whole : cut headEnd ((new ⟨16, 16⟩).run [.feed bareResponse]).2.gathered =
      some (Ascii.octets "HTTP/1.1 204 No Content", []) := by decide +kernel
  cases whole.symm.trans cutAt
  exact absurd headFits (by decide)

end Receiver

end WebFetch
