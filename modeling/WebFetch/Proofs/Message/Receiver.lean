/-
This file is about how the octets of a response arrive. What the octets gathered so far settle, be
it a response or an error, more octets do not change; so a receiver that is given octets in pieces,
or that reads them from a stream, comes to the same result as one that is given them all at once.
-/

import WebFetch.Message.Receiver
import WebFetch.Proofs.Message.Chunked
import WebFetch.Proofs.Stream.Pending

namespace WebFetch

/-- Whether octets are within limits as they arrive: they are no more than a head may have, or their
head ends within its limit and they are no more than a head and a body may have. -/
def Limits.Admits (limits : Limits) (octets : Octets) : Prop :=
  octets.length ≤ limits.head ∨
    ∃ place, FirstAt Message.headEnd octets place ∧
      place + Message.headEnd.length ≤ limits.head ∧ octets.length ≤ limits.head + limits.body

/-- The octets that arrived first are within limits too. -/
theorem Limits.Admits.of_part {limits : Limits} {octets part : Octets}
    (admitted : limits.Admits octets) (before : part <+: octets) : limits.Admits part := by
  have shorter := before.length_le
  rcases admitted with few | ⟨place, first, inHead, few⟩
  · exact Or.inl (by omega)
  · by_cases reaches : place + Message.headEnd.length ≤ part.length
    · exact Or.inr ⟨place, first.of_part before reaches, inHead, by omega⟩
    · exact Or.inl (by omega)

namespace Receiver

open Message (headEnd)

/-- What comes of pieces of octets when the receiver is asked for a response after each of them, and
told after the last that no more will come. -/
def receivePieces (receiver : Receiver) : List Octets → Except MessageError Response
  | [] => receiver.finish.1
  | octets :: later =>
    match receiver.feed octets with
    | (.error error, _) => .error error
    | (.ok _, receiver) =>
      match receiver.next with
      | (.error error, _) => .error error
      | (.ok (some response), _) => .ok response
      | (.ok none, receiver) => receivePieces receiver later

/-- What comes of octets after which no more will come. -/
def answer (limits : Limits) (octets : Octets) : Except MessageError Response :=
  match response? limits octets with
  | .error error => .error error
  | .ok (some response) => .ok response
  | .ok none => lastResponse octets

/-! ### More octets -/

theorem headEnd_ne_nil : headEnd ≠ [] := List.cons_ne_nil _ _

/-- Octets that were found stay what they are, and so does an offset that is none. -/
theorem slice?_append {octets : Octets} {start length : Nat}
    (settled : slice? octets start length ≠ .ok none) (later : Octets) :
    slice? (octets ++ later) start length = slice? octets start length := by
  unfold slice? at settled ⊢
  split
  · rfl
  · rename_i addressable
    rw [if_neg addressable] at settled
    split
    · rename_i missing
      rw [List.length_append] at missing
      exact absurd (if_pos (by omega)) settled
    · rename_i whole
      have within : start + length ≤ octets.length := by
        refine Nat.le_of_not_lt fun missing => ?_
        exact settled (if_pos missing)
      rw [if_neg (Nat.not_lt.mpr within), List.drop_append_of_le_length (by omega),
        List.take_append_of_le_length (by rw [List.length_drop]; omega)]

/-- A body that was found stays what it is. -/
theorem body?_append {limits : Limits} {octets : Octets} {start : Nat} {framing : Framing}
    (settled : body? limits octets start framing ≠ .ok none) (within : start ≤ octets.length)
    (later : Octets) :
    body? limits (octets ++ later) start framing = body? limits octets start framing := by
  cases framing with
  | empty => rfl
  | untilClose => rfl
  | contentLength length =>
    unfold body? at settled ⊢
    dsimp only at settled ⊢
    split
    · rfl
    · rename_i small
      rw [if_neg small] at settled
      exact slice?_append settled later
  | chunked =>
    show Chunked.decode limits.body ((octets ++ later).drop start) = _
    rw [List.drop_append_of_le_length within]
    exact Chunked.decode_append settled later

theorem response?_of_uncut {limits : Limits} {octets : Octets}
    (found : cut headEnd octets = none) (within : octets.length ≤ limits.head) :
    response? limits octets = .ok none := by
  unfold response?
  rw [found]
  exact if_neg (Nat.not_lt.mpr within)

theorem response?_of_new (limits : Limits) : response? limits [] = .ok none :=
  response?_of_uncut rfl (Nat.zero_le _)

theorem response?_of_cut (limits : Limits) {octets headOctets after : Octets}
    (found : cut headEnd octets = some (headOctets, after)) :
    response? limits octets = (do
      let head ← Head.parse headOctets
      let framing ← Framing.ofFields head.status head.fields
      let body ← body? limits octets (headOctets.length + headEnd.length) framing
      return body.map head.withBody) := by
  unfold response?
  rw [found]

theorem response?_of_head (limits : Limits) {octets headOctets after : Octets} {head : Head}
    {framing : Framing} (found : cut headEnd octets = some (headOctets, after))
    (parsed : Head.parse headOctets = .ok head)
    (framed : Framing.ofFields head.status head.fields = .ok framing) :
    response? limits octets =
      (body? limits octets (headOctets.length + headEnd.length) framing).map
        (Option.map head.withBody) := by
  rw [response?_of_cut limits found, parsed]
  simp only [bind, Except.bind, framed]
  cases body? limits octets (headOctets.length + headEnd.length) framing with
  | error error => rfl
  | ok body => rfl

/-- A response that was found and an error that was found stay what they are. -/
theorem response?_append {limits : Limits} {octets : Octets}
    (settled : response? limits octets ≠ .ok none)
    (within : cut headEnd octets = none → octets.length ≤ limits.head) (later : Octets) :
    response? limits (octets ++ later) = response? limits octets := by
  match found : cut headEnd octets with
  | none => exact absurd (response?_of_uncut found (within found)) settled
  | some (headOctets, after) =>
    have foundLater := cut_append found later
    match parsed : Head.parse headOctets with
    | .error error =>
      rw [response?_of_cut limits found, response?_of_cut limits foundLater, parsed]
      rfl
    | .ok head =>
      match framed : Framing.ofFields head.status head.fields with
      | .error error =>
        rw [response?_of_cut limits found, response?_of_cut limits foundLater, parsed]
        simp only [bind, Except.bind, framed]
      | .ok framing =>
        rw [response?_of_head limits found parsed framed] at settled ⊢
        rw [response?_of_head limits foundLater parsed framed, body?_append ?_ ?_ later]
        · intro unsettled
          rw [unsettled] at settled
          exact settled rfl
        · rw [eq_of_cut headEnd_ne_nil found]
          simp only [List.length_append]
          omega

/-! ### Octets within limits -/

/-- Without the end of a head there are no more octets than a head may have. -/
theorem length_le_of_uncut {limits : Limits} {octets : Octets} (admitted : limits.Admits octets)
    (found : cut headEnd octets = none) : octets.length ≤ limits.head := by
  rcases admitted with few | ⟨place, first, _⟩
  · exact few
  · rw [cut_of_firstAt headEnd_ne_nil first] at found
    cases found

theorem length_le_total {limits : Limits} {octets : Octets} (admitted : limits.Admits octets)
    (addressable : octets.length < wordLimit) : octets.length ≤ limits.total := by
  have few : octets.length ≤ limits.head + limits.body := by
    rcases admitted with few | ⟨_, _, _, few⟩ <;> omega
  unfold Limits.total
  omega

theorem answer_of_waiting {limits : Limits} {octets : Octets}
    (waiting : response? limits octets = .ok none) :
    answer limits octets = lastResponse octets := by
  rw [answer, waiting]

/-- What a part of the octets settles is the answer to all of them. -/
theorem answer_of_settled {limits : Limits} {part later : Octets}
    (admitted : limits.Admits (part ++ later)) (settled : response? limits part ≠ .ok none) :
    answer limits (part ++ later) = answer limits part := by
  have admittedPart := admitted.of_part (List.prefix_append part later)
  unfold answer
  rw [response?_append settled (length_le_of_uncut admittedPart) later]
  match found : response? limits part with
  | .error error => rfl
  | .ok (some response) => rfl
  | .ok none => exact absurd found settled

theorem answer_of_response {limits : Limits} {part later : Octets} {response : Response}
    (admitted : limits.Admits (part ++ later))
    (found : response? limits part = .ok (some response)) :
    answer limits (part ++ later) = .ok response := by
  rw [answer_of_settled admitted (by rw [found]; nofun), answer, found]

theorem answer_of_error {limits : Limits} {part later : Octets} {error : MessageError}
    (admitted : limits.Admits (part ++ later)) (found : response? limits part = .error error) :
    answer limits (part ++ later) = .error error := by
  rw [answer_of_settled admitted (by rw [found]; nofun), answer, found]

/-! ### Octets as they arrive -/

theorem feed_of_le {receiver : Receiver} {octets : Octets}
    (few : (receiver.gathered ++ octets).length ≤ receiver.limits.total) :
    receiver.feed octets = (.ok (), ⟨receiver.limits, receiver.gathered ++ octets⟩) :=
  if_neg (Nat.not_lt.mpr few)

theorem finish_fst (receiver : Receiver) :
    receiver.finish.1 = lastResponse receiver.gathered := by
  unfold finish
  split
  · rename_i found
    exact found.symm
  · rfl

/-- Pieces after which nothing is settled yet lead to the answer to all octets. -/
theorem receivePieces_eq {receiver : Receiver} {pieces : List Octets}
    (admitted : receiver.limits.Admits (receiver.gathered ++ pieces.flatten))
    (addressable : (receiver.gathered ++ pieces.flatten).length < wordLimit)
    (waiting : response? receiver.limits receiver.gathered = .ok none) :
    receiver.receivePieces pieces =
      answer receiver.limits (receiver.gathered ++ pieces.flatten) := by
  induction pieces generalizing receiver with
  | nil =>
    rw [List.flatten_nil, List.append_nil, receivePieces, finish_fst, answer_of_waiting waiting]
  | cons octets later inductionHypothesis =>
    rw [List.flatten_cons, ← List.append_assoc] at admitted addressable ⊢
    have admittedPart := admitted.of_part (List.prefix_append _ later.flatten)
    have few := length_le_total admittedPart (by rw [List.length_append] at addressable; omega)
    rw [receivePieces, feed_of_le few]
    dsimp only [next]
    match found : response? receiver.limits (receiver.gathered ++ octets) with
    | .ok none => exact inductionHypothesis admitted addressable found
    | .error error => exact (answer_of_error admitted found).symm
    | .ok (some response) => exact (answer_of_response admitted found).symm

/-! ### Octets that are read -/

/-- What is done with what a read yielded. -/
def turn (receiver : Receiver) (later : Stream) (journal : Journal) :
    Except IoError Octets → Reception
  | .error error =>
    if error.kind = .interrupted then receiver.receive later journal
    else if error.kind = .unexpectedEof then receiver.close later journal
    else ⟨.error (.io error), later, journal⟩
  | .ok [] => receiver.close later journal
  | .ok (first :: rest) =>
    let journal := journal.trace .message "response data"
      [.plain "bytes" (first :: rest).length.repr]
    match receiver.feed (first :: rest) with
    | (.error error, _) => ⟨.error error, later, journal⟩
    | (.ok _, receiver) =>
      match receiver.next with
      | (.error error, _) => ⟨.error error, later, journal⟩
      | (.ok (some response), _) => ⟨.ok response, later, journal⟩
      | (.ok none, receiver) => receiver.receive later journal

theorem receive_eq_turn {receiver : Receiver} {stream later : Stream}
    {result : Except IoError Octets} (found : stream.read readSize = (result, later))
    (journal : Journal) : receiver.receive stream journal = receiver.turn later journal result := by
  rw [receive]
  split <;> rename_i other <;> rw [found] at other <;> cases other <;> rfl

theorem receive_of_interrupted {receiver : Receiver} {stream later : Stream} {journal : Journal}
    {error : IoError} (found : stream.read readSize = (.error error, later))
    (interrupted : error.kind = .interrupted) :
    receiver.receive stream journal = receiver.receive later journal := by
  rw [receive_eq_turn found]
  exact if_pos interrupted

theorem receive_of_end {receiver : Receiver} {stream later : Stream} {journal : Journal}
    {result : Except IoError Octets} (found : stream.read readSize = (result, later))
    (ended : result = .ok [] ∨ ∃ error, result = .error error ∧ error.kind = .unexpectedEof) :
    (receiver.receive stream journal).result = receiver.finish.1 := by
  rw [receive_eq_turn found]
  rcases ended with rfl | ⟨error, rfl, eof⟩
  · rfl
  · rw [turn, if_neg (by rw [eof]; decide), if_pos eof]
    rfl

/-- Octets that are read are gathered, and reading goes on while they settle nothing. -/
theorem receive_of_octets {receiver : Receiver} {stream later : Stream} (journal : Journal)
    {first : UInt8} {rest : Octets} (found : stream.read readSize = (.ok (first :: rest), later))
    (few : (receiver.gathered ++ first :: rest).length ≤ receiver.limits.total) :
    ∃ journalLater, (receiver.receive stream journal).result =
      match response? receiver.limits (receiver.gathered ++ first :: rest) with
      | .error error => .error error
      | .ok (some response) => .ok response
      | .ok none =>
        (receive ⟨receiver.limits, receiver.gathered ++ first :: rest⟩ later
          journalLater).result := by
  refine ⟨journal.trace .message "response data" [.plain "bytes" (first :: rest).length.repr], ?_⟩
  rw [receive_eq_turn found, turn, feed_of_le few]
  dsimp only [next]
  cases response? receiver.limits (receiver.gathered ++ first :: rest) with
  | error error => rfl
  | ok response => cases response <;> rfl

/-- What is received does not depend on the journal. -/
theorem receive_journal (receiver : Receiver) (stream : Stream) (journal other : Journal) :
    (receiver.receive stream journal).result = (receiver.receive stream other).result ∧
      (receiver.receive stream journal).stream = (receiver.receive stream other).stream := by
  induction weight : stream.weight using Nat.strongRecOn
    generalizing receiver stream journal other with
  | ind count inductionHypothesis =>
    subst weight
    match found : stream.read readSize with
    | (.error error, later) =>
      rw [receive_eq_turn found, receive_eq_turn found, turn, turn]
      by_cases interrupted : error.kind = .interrupted
      · rw [if_pos interrupted, if_pos interrupted]
        exact inductionHypothesis _ (Stream.weight_read_lt_of_interrupted found interrupted) _ _ _
          _ rfl
      · rw [if_neg interrupted, if_neg interrupted]
        split <;> exact ⟨rfl, rfl⟩
    | (.ok [], later) =>
      rw [receive_eq_turn found, receive_eq_turn found]
      exact ⟨rfl, rfl⟩
    | (.ok (first :: rest), later) =>
      rw [receive_eq_turn found, receive_eq_turn found, turn, turn]
      split
      · exact ⟨rfl, rfl⟩
      · split
        · exact ⟨rfl, rfl⟩
        · exact ⟨rfl, rfl⟩
        · exact inductionHypothesis _ (Stream.weight_read_lt_of_ok found) _ _ _ _ rfl

/-- A stream from which nothing is settled yet leads to the answer to all octets, if it closes or
the octets settle something before it does. -/
theorem receive_eq {receiver : Receiver} {stream : Stream} {journal : Journal}
    (admitted : receiver.limits.Admits (receiver.gathered ++ stream.pending))
    (addressable : (receiver.gathered ++ stream.pending).length < wordLimit)
    (waiting : response? receiver.limits receiver.gathered = .ok none)
    (closes : response? receiver.limits (receiver.gathered ++ stream.pending) = .ok none →
      stream.Closes) :
    (receiver.receive stream journal).result =
      answer receiver.limits (receiver.gathered ++ stream.pending) := by
  generalize measured : stream.weight = weight
  induction weight using Nat.strongRecOn generalizing receiver stream journal with
  | ind weight inductionHypothesis =>
    subst measured
    have ends : stream.pending = [] → stream.Closes := fun nothing =>
      closes (by rwa [nothing, List.append_nil])
    -- A read is interrupted, yields octets or comes to the end; the first two use up the stream.
    obtain ⟨result, later, found, ⟨error, rfl, interrupted, same, closesLater⟩ |
      ⟨first, rest, rfl, parts, closesLater⟩ | ⟨nothing, ended⟩⟩ :=
      Stream.read_cases (by decide : readSize ≠ 0) ends
    · have shorter := Stream.weight_read_lt_of_interrupted found interrupted
      rw [receive_of_interrupted found interrupted]
      rw [← same] at admitted addressable closes ⊢
      exact inductionHypothesis later.weight shorter admitted addressable waiting
        (fun unsettled => closesLater (closes unsettled)) rfl
    · have shorter := Stream.weight_read_lt_of_ok found
      rw [parts, ← List.append_assoc] at admitted addressable closes ⊢
      have few := length_le_total (admitted.of_part (List.prefix_append _ later.pending))
        (by rw [List.length_append] at addressable; omega)
      obtain ⟨journalLater, turn⟩ := receive_of_octets journal found few
      rw [turn]
      match settled : response? receiver.limits (receiver.gathered ++ first :: rest) with
      | .ok none =>
        exact inductionHypothesis later.weight shorter admitted addressable settled
          (fun unsettled => closesLater (closes unsettled)) rfl
      | .error error => exact (answer_of_error admitted settled).symm
      | .ok (some response) => exact (answer_of_response admitted settled).symm
    · rw [receive_of_end found ended, finish_fst, nothing, List.append_nil,
        answer_of_waiting waiting]

/-! ### All ways to arrive -/

theorem receivePieces_new {limits : Limits} {pieces : List Octets}
    (admitted : limits.Admits pieces.flatten) (addressable : pieces.flatten.length < wordLimit) :
    receivePieces (new limits) pieces = answer limits pieces.flatten :=
  @receivePieces_eq (new limits) pieces admitted addressable (response?_of_new limits)

/-- Octets within limits come to the same response or the same error in whatever pieces they
arrive, and so does a stream that yields them before it ends or is cut off, whatever its reads
yield and however often they are interrupted. Octets in memory are always fewer than addresses. -/
theorem receive_ignores_arrival {limits : Limits} {octets : Octets}
    (addressable : octets.length < wordLimit) (admitted : limits.Admits octets) :
    (∀ pieces : List Octets, pieces.flatten = octets →
      receivePieces (new limits) pieces = receivePieces (new limits) [octets]) ∧
    ∀ (stream : Stream) (journal : Journal), stream.pending = octets → stream.Closes →
      (receive (new limits) stream journal).result = receivePieces (new limits) [octets] := by
  have whole : [octets].flatten = octets := List.flatten_singleton
  have atOnce : receivePieces (new limits) [octets] = answer limits octets := by
    rw [← whole] at admitted addressable
    rw [receivePieces_new admitted addressable, whole]
  rw [atOnce]
  constructor
  · rintro pieces rfl
    exact receivePieces_new admitted addressable
  · rintro stream journal rfl closes
    exact @receive_eq (new limits) stream journal admitted addressable (response?_of_new limits)
      fun _ => closes

/-- A chunked response of more octets than its head may have, in pieces of one octet and from a
stream that is interrupted and cut off. -/
theorem receive_ignores_arrival_singleOctets :
    let octets := Ascii.octets
      "HTTP/1.1 200 OK\r\nTransfer-Encoding: chunked\r\n\r\n2\r\nhi\r\n0\r\nA: b\r\n\r\n"
    let limits : Limits := ⟨60, 10⟩
    let stream := Stream.ofEvents [.arrive (octets.take 45), .fail ⟨.interrupted, "signal"⟩,
      .arrive (octets.drop 45), .fail ⟨.unexpectedEof, "no closing alert"⟩]
    limits.head < octets.length ∧
      receivePieces (new limits) (octets.map fun octet => [octet]) =
        receivePieces (new limits) [octets] ∧
      (receive (new limits) stream .silent).result = receivePieces (new limits) [octets] ∧
      (receivePieces (new limits) [octets]).toOption = some ⟨"HTTP/1.1", 200, "OK",
        [⟨"Transfer-Encoding", "chunked"⟩], Ascii.octets "hi"⟩ := by
  intro octets limits stream
  have admitted : limits.Admits octets := Or.inr ⟨43, by decide +kernel, by decide, by decide⟩
  have arrival := receive_ignores_arrival (by decide) admitted
  refine ⟨by decide, arrival.1 _ (by decide +kernel), arrival.2 _ _ (by decide +kernel) ?_,
    by decide +kernel⟩
  simp [Stream.Closes, ReadEvent.Closes, stream, Stream.ofEvents]

end Receiver

end WebFetch
