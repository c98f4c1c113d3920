/-
This file is about the offsets at which a body, or a chunk with its line end, ends. They are sums of
an offset into what was gathered and a length that the response tells, which can be any number of 64
bits. The sum for a chunk is checked. The sum for a body is not: where the limit of the body allows
it, the sum is no offset, and the program stops. Under the limits that hold where none are given
this never happens.
-/

import WebFetch.Proofs.Message.Chunked.Turns
import WebFetch.Proofs.Message.Complete
import WebFetch.Proofs.Message.History

namespace WebFetch

open Message (lineEnd headEnd)

/-- The first number of octets that memory does not hold. -/
def memoryLimit : Nat := wordLimit / 2

namespace Chunked.Place

/-! ### Offsets of chunks -/

/-- Whether the offset of a place before a size line is where the octets behind it begin. -/
def Located (octets : Octets) : Place → Prop
  | sizeLine _ offset _ behind => ∃ before, octets = before ++ behind ∧ before.length = offset
  | trailerLine _ _ => True
  | done _ => True

/-- Behind a chunk that is taken stands the next size line, at the offset that was computed. -/
theorem located_takeChunk {octets before behind : Octets} {room next : Nat} {pieces : List Octets}
    {size : Nat} (parts : octets = before ++ behind)
    (same : before.length + size + lineEnd.length = next) :
    (takeChunk room next pieces size behind).Located octets := by
  unfold takeChunk
  split
  · trivial
  · split
    · trivial
    · match remains : behind.drop size with
      | [] | [_] => trivial
      | carriage :: feed :: later =>
        dsimp only
        split
        · obtain ⟨chunkParts, length⟩ := parts_of_drop remains
          refine ⟨before ++ (behind.take size ++ [carriage, feed]), ?_, ?_⟩
          · rw [parts, List.append_assoc, List.append_assoc]
            exact congrArg (before ++ ·) chunkParts
          · rw [List.length_append, List.length_append, length, ← same, Nat.add_assoc]
            rfl
        · trivial

/-- A turn leads from the right offset to the right offset. -/
theorem located_turn {octets : Octets} {place : Place} (located : place.Located octets) :
    place.turn.Located octets := by
  cases place with
  | sizeLine room offset pieces behind =>
    obtain ⟨before, rfl, rfl⟩ := located
    rw [turn]
    cases found : cut lineEnd behind with
    | none => trivial
    | some parts =>
      obtain ⟨line, after⟩ := parts
      dsimp only
      cases size? line with
      | none => trivial
      | some size =>
        cases size with
        | zero => trivial
        | succ size =>
          have parts := eq_of_cut lineEnd_ne_nil found
          refine @located_takeChunk _ (before ++ (line ++ lineEnd)) _ _ _ _ _ ?_ ?_
          · simp only [parts, List.append_assoc]
          · rw [List.length_append, List.length_append]
            omega
  | trailerLine body behind =>
    rw [turn]
    cases cut lineEnd behind with
    | none => trivial
    | some parts =>
      dsimp only
      split <;> trivial
  | done result => trivial

/-- However many turns are taken, the offset is right. -/
theorem located_iterate_turn (limit : Nat) (octets : Octets) (count : Nat) :
    (turn^[count] (.sizeLine limit 0 [] octets)).Located octets := by
  induction count with
  | zero => exact ⟨[], rfl, rfl⟩
  | succ count inductionHypothesis =>
    rw [Function.iterate_succ_apply']
    exact located_turn inductionHypothesis

end Chunked.Place

section

variable {limit count room offset size : Nat} {pieces : List Octets}
  {octets rest line after : Octets}

namespace Chunked

variable (stands : Place.turn^[count] (.sizeLine limit 0 [] octets) =
    .sizeLine room offset pieces rest)
  (found : cut lineEnd rest = some (line, after))

include stands found

/-- A chunk begins inside the octets. -/
theorem chunkStart_le : offset + line.length + lineEnd.length ≤ octets.length := by
  have located := Place.located_iterate_turn limit octets count
  rw [stands] at located
  obtain ⟨before, rfl, rfl⟩ := located
  have size := congrArg List.length (eq_of_cut lineEnd_ne_nil found)
  rw [List.length_append, List.length_append] at size
  rw [List.length_append]
  omega

/-- A chunk that would end behind all offsets is refused. -/
theorem decode_of_wrapped (sized : size? line = some size) (some : size ≠ 0) (fits : size ≤ room)
    (wrapped : wordLimit ≤ offset + line.length + lineEnd.length + (size + lineEnd.length)) :
    decode limit octets = .error .invalidChunk := by
  have kept := Place.result_iterate_turn count (.sizeLine limit 0 [] octets)
  rw [stands] at kept
  have same : decode limit octets = decodeFrom room offset pieces rest := kept.symm
  rw [same, decodeFrom_of_cut room offset pieces found,
    decodeLine_of_size room offset pieces after sized some, decodeChunk,
    if_neg (Nat.not_lt.mpr fits), if_pos (by omega)]

end Chunked

end

/-! ### Errors that are returned -/

/-- Reading a head returns its errors. -/
theorem Head.parse_ne_overflow (octets : Octets) : Head.parse octets ≠ .error .overflow := by
  intro stopped
  unfold Head.parse at stopped
  split at stopped
  · cases stopped
  · rename_i lines _
    cases lines with
    | nil => cases stopped
    | cons statusLine lines =>
      rcases exists_error_of_bind stopped with statusFailed | ⟨parts, _, stopped⟩
      · unfold parseStatusLine at statusFailed
        dsimp only at statusFailed
        split at statusFailed
        · cases statusFailed
        · split at statusFailed
          · cases statusFailed
          · split at statusFailed <;> cases statusFailed
      · rcases exists_error_of_bind stopped with fieldsFailed | ⟨_, _, stopped⟩
        · obtain ⟨line, _, fieldFailed⟩ := exists_error_of_mapM fieldsFailed
          unfold parseField at fieldFailed
          split at fieldFailed <;> cases fieldFailed
        · cases stopped

/-- Choosing a framing returns its errors. -/
theorem Framing.ofFields_ne_overflow (status : UInt16) (fields : List Field) :
    Framing.ofFields status fields ≠ .error .overflow := by
  unfold ofFields ofTransferCoding ofContentLength
  split
  · nofun
  · split
    · split <;> nofun
    · split
      · split <;> nofun
      · nofun

/-- Decoding chunks returns its errors: every sum is checked. -/
theorem Chunked.decodeFrom_ne_overflow (room offset : Nat) (pieces : List Octets)
    (octets : Octets) : decodeFrom room offset pieces octets ≠ .error .overflow := by
  fun_induction decodeFrom room offset pieces octets with
  | case6 =>
    rename_i inductionHypothesis
    exact inductionHypothesis
  | _ => nofun

namespace Receiver

/-! ### Offsets that are computed -/

/-- Whether a receiver that is asked for a response adds a length that the response tells to an
offset, to find where the body ends, or a chunk with its line end. -/
inductive Adds (receiver : Receiver) : Framing → (start length : Nat) → Prop
  | body {headOctets behind : Octets} {head : Head} {length : Nat}
    (found : cut headEnd receiver.gathered = some (headOctets, behind))
    (parsed : Head.parse headOctets = .ok head)
    (framed : Framing.ofFields head.status head.fields = .ok (.contentLength length))
    (fits : length ≤ receiver.limits.body) :
    Adds receiver (.contentLength length) (headOctets.length + headEnd.length) length
  | chunk {headOctets behind : Octets} {head : Head} {count room offset size : Nat}
    {pieces : List Octets} {rest line after : Octets}
    (found : cut headEnd receiver.gathered = some (headOctets, behind))
    (parsed : Head.parse headOctets = .ok head)
    (framed : Framing.ofFields head.status head.fields = .ok .chunked)
    (stands : Chunked.Place.turn^[count] (.sizeLine receiver.limits.body 0 [] behind) =
      .sizeLine room offset pieces rest)
    (lineFound : cut lineEnd rest = some (line, after))
    (sized : Chunked.size? line = some size) (some : size ≠ 0) (fits : size ≤ room) :
    Adds receiver .chunked (offset + line.length + lineEnd.length) (size + lineEnd.length)

/-- No more octets were gathered than calls fed. -/
theorem length_fedSince_le (limits : Limits) (calls : List Call) :
    (fedSince limits calls).length ≤ (calls.flatMap Call.octets).length := by
  induction calls using List.reverseRecOn with
  | nil => exact Nat.zero_le _
  | append_singleton calls call inductionHypothesis =>
    rw [fedSince_concat, List.flatMap_append, List.flatMap_singleton, List.length_append]
    split
    · rw [List.length_append]
      omega
    · exact Nat.zero_le _

/-- A body of a known length is looked for where it should be. -/
theorem response?_of_length {limits : Limits} {octets headOctets behind : Octets} {head : Head}
    {length : Nat} (found : cut headEnd octets = some (headOctets, behind))
    (parsed : Head.parse headOctets = .ok head)
    (framed : Framing.ofFields head.status head.fields = .ok (.contentLength length))
    (fits : length ≤ limits.body) :
    response? limits octets =
      (slice? octets (headOctets.length + headEnd.length) length).map
        (Option.map head.withBody) := by
  rw [response?_of_head limits found parsed framed, body?, if_neg (Nat.not_lt.mpr fits)]

/-- A body makes the program stop exactly if its length is told and its end is no offset. -/
theorem body?_eq_overflow_iff {limits : Limits} {octets : Octets} {start : Nat}
    {framing : Framing} :
    body? limits octets start framing = .error .overflow ↔
      ∃ length, framing = .contentLength length ∧ length ≤ limits.body ∧
        wordLimit ≤ start + length := by
  constructor
  · intro stopped
    cases framing with
    | empty => cases stopped
    | untilClose => cases stopped
    | chunked => exact absurd stopped (Chunked.decodeFrom_ne_overflow _ _ _ _)
    | contentLength length =>
      unfold body? slice? at stopped
      dsimp only at stopped
      split at stopped
      · cases stopped
      · rename_i fits
        split at stopped
        · rename_i beyond
          exact ⟨length, rfl, Nat.le_of_not_lt fits, beyond⟩
        · split at stopped <;> cases stopped
  · rintro ⟨length, rfl, fits, beyond⟩
    rw [body?, if_neg (Nat.not_lt.mpr fits)]
    exact slice?_of_overflow octets beyond

/-- Looking for a response makes the program stop exactly if a head has arrived that tells a length
which the limits allow, and the body would end at no offset. -/
theorem response?_eq_overflow_iff {limits : Limits} {octets : Octets} :
    response? limits octets = .error .overflow ↔
      ∃ headOctets behind head length, cut headEnd octets = some (headOctets, behind) ∧
        Head.parse headOctets = .ok head ∧
        Framing.ofFields head.status head.fields = .ok (.contentLength length) ∧
        length ≤ limits.body ∧ wordLimit ≤ headOctets.length + headEnd.length + length := by
  constructor
  · intro stopped
    match found : cut headEnd octets with
    | none =>
      rw [response?, found] at stopped
      dsimp only at stopped
      split at stopped <;> cases stopped
    | some (headOctets, behind) =>
      rw [response?_of_cut limits found] at stopped
      rcases exists_error_of_bind stopped with unparsed | ⟨head, parsed, stopped⟩
      · exact absurd unparsed (Head.parse_ne_overflow headOctets)
      · rcases exists_error_of_bind stopped with unframed | ⟨framing, framed, stopped⟩
        · exact absurd unframed (Framing.ofFields_ne_overflow _ _)
        · rcases exists_error_of_bind stopped with unfound | ⟨body, _, stopped⟩
          · obtain ⟨length, rfl, fits, beyond⟩ := body?_eq_overflow_iff.mp unfound
            exact ⟨headOctets, behind, head, length, rfl, parsed, framed, fits, beyond⟩
          · cases stopped
  · rintro ⟨headOctets, behind, head, length, found, parsed, framed, fits, beyond⟩
    rw [response?_of_length found parsed framed fits, slice?_of_overflow octets beyond]
    rfl

/-- As long as all ends of bodies that the limits allow are offsets, the program does not stop. -/
theorem response?_ne_overflow {limits : Limits} {octets : Octets}
    (few : octets.length + limits.body < wordLimit) :
    response? limits octets ≠ .error .overflow := by
  intro stopped
  obtain ⟨headOctets, behind, head, length, found, _, _, fits, beyond⟩ :=
    response?_eq_overflow_iff.mp stopped
  have size := congrArg List.length (eq_of_cut headEnd_ne_nil found)
  rw [List.length_append, List.length_append] at size
  omega

/-- Looking for the last response never makes the program stop. -/
theorem lastResponse_ne_overflow (octets : Octets) : lastResponse octets ≠ .error .overflow := by
  intro stopped
  unfold lastResponse at stopped
  split at stopped
  · cases stopped
  · rcases exists_error_of_bind stopped with unparsed | ⟨head, _, stopped⟩
    · exact Head.parse_ne_overflow _ unparsed
    · rcases exists_error_of_bind stopped with unframed | ⟨framing, _, stopped⟩
      · exact Framing.ofFields_ne_overflow _ _ unframed
      · cases framing <;> cases stopped

/-- Octets that are accepted are no more than may be gathered. -/
theorem length_le_of_feed {receiver next : Receiver} {octets : Octets}
    (fed : receiver.feed octets = (.ok (), next)) : next.gathered.length ≤ next.limits.total := by
  unfold feed at fed
  dsimp only at fed
  split at fed
  · cases fed
  · rename_i few
    cases fed
    exact Nat.le_of_not_lt few

/-- Receiving a response never makes the program stop, if all ends of bodies that the limits allow
are offsets. -/
theorem receive_ne_overflow {receiver : Receiver} {stream : Stream} {journal : Journal}
    (few : receiver.limits.total + receiver.limits.body < wordLimit) :
    (receiver.receive stream journal).result ≠ .error .overflow := by
  fun_induction receive receiver stream journal with
  | case1 receiver stream journal error later read interrupted less inductionHypothesis =>
    exact inductionHypothesis few
  | case2 receiver stream journal error later read lasting eof =>
    exact fun stopped => lastResponse_ne_overflow _ ((finish_fst receiver).symm.trans stopped)
  | case3 receiver stream journal error later read lasting other =>
    intro stopped
    cases stopped
  | case4 receiver stream journal later read =>
    exact fun stopped => lastResponse_ne_overflow _ ((finish_fst receiver).symm.trans stopped)
  | case5 receiver stream journal first rest later read less count journal error fed feeding =>
    intro stopped
    cases stopped
    unfold feed at feeding
    dsimp only at feeding
    split at feeding <;> cases feeding
  | case6 receiver stream journal first rest later read less count journal _ grown feeding error
      same asking =>
    intro stopped
    cases stopped
    obtain rfl := eq_of_feed feeding
    have gathered : (receiver.gathered ++ first :: rest).length ≤ receiver.limits.total :=
      length_le_of_feed feeding
    have stops : response? receiver.limits (receiver.gathered ++ first :: rest) =
        .error .overflow :=
      (next_fst _).symm.trans (congrArg Prod.fst asking)
    exact response?_ne_overflow (by omega) stops
  | case7 receiver stream journal first rest later read less count journal _ grown feeding answer
      emptied asking =>
    intro stopped
    cases stopped
  | case8 receiver stream journal first rest later read less count journal _ grown feeding same
      asking inductionHypothesis =>
    obtain rfl := eq_of_feed feeding
    obtain rfl := eq_of_next asking
    exact inductionHypothesis few

/-- A length is added to an offset into what was gathered. -/
theorem Adds.start_le {receiver : Receiver} {framing : Framing} {start length : Nat}
    (adds : receiver.Adds framing start length) : start ≤ receiver.gathered.length := by
  cases adds with
  | body found parsed framed fits =>
    rw [eq_of_cut headEnd_ne_nil found, List.length_append, List.length_append]
    omega
  | chunk found parsed framed stands lineFound sized some fits =>
    have inside := Chunked.chunkStart_le stands lineFound
    rw [eq_of_cut headEnd_ne_nil found, List.length_append]
    omega

/-- The end of a chunk is an offset, or the chunk is refused. -/
theorem Adds.chunk_lt_or {receiver : Receiver} {start length : Nat}
    (adds : receiver.Adds .chunked start length) :
    start + length < wordLimit ∨ receiver.next = (.error .invalidChunk, receiver) := by
  cases adds with
  | chunk found parsed framed stands lineFound sized some fits =>
    refine or_iff_not_imp_left.mpr fun wrapped => ?_
    have refused := Chunked.decode_of_wrapped stands lineFound sized some fits
      (Nat.le_of_not_lt wrapped)
    have answer : response? receiver.limits receiver.gathered = .error .invalidChunk := by
      rw [response?_of_head receiver.limits found parsed framed, body?,
        eq_of_cut headEnd_ne_nil found, ← List.length_append, List.drop_left, refused]
      rfl
    rw [next, answer]

/-- A body whose end is no offset stops the program, whatever has arrived. -/
theorem Adds.body_stops {receiver : Receiver} {start length : Nat}
    (adds : receiver.Adds (.contentLength length) start length)
    (beyond : wordLimit ≤ start + length) (more : Octets) :
    (⟨receiver.limits, receiver.gathered ++ more⟩ : Receiver).next.1 = .error .overflow := by
  cases adds with
  | body found parsed framed fits =>
    rw [next_fst, response?_of_length (cut_append found more) parsed framed fits,
      slice?_of_overflow _ beyond]
    rfl

/-- A body whose end is an offset is handed out once it was gathered. -/
theorem Adds.body_handed_iff {receiver : Receiver} {start length : Nat}
    (adds : receiver.Adds (.contentLength length) start length)
    (few : receiver.gathered.length < wordLimit) :
    (Call.next.make receiver).1.response?.isSome = true ↔
      start + length ≤ receiver.gathered.length := by
  by_cases addressable : start + length < wordLimit
  · cases adds with
    | body found parsed framed fits =>
      rw [Call.make, Outcome.response?, next_fst, response?_of_length found parsed framed fits,
        slice?_of_addressable _ addressable]
      split
      · rename_i short
        refine iff_of_false (fun handed => ?_) (Nat.not_le.mpr short)
        cases handed
      · rename_i whole
        exact iff_of_true rfl (Nat.le_of_not_lt whole)
  · have stops := adds.body_stops (Nat.le_of_not_lt addressable) []
    rw [List.append_nil] at stops
    have none : (Call.next.make receiver).1.response? = .none := by
      show receiver.next.1.toOption.join = .none
      rw [stops]
      rfl
    rw [none]
    refine iff_of_false (fun handed => ?_) (by omega)
    cases handed

/-- The program stops when a receiver is asked for a response exactly if it adds the length of a
body and the sum is no offset. -/
theorem next_eq_overflow_iff {receiver : Receiver} :
    receiver.next.1 = .error .overflow ↔ ∃ start length,
      receiver.Adds (.contentLength length) start length ∧ wordLimit ≤ start + length := by
  constructor
  · intro stopped
    rw [next_fst] at stopped
    obtain ⟨headOctets, behind, head, length, found, parsed, framed, fits, beyond⟩ :=
      response?_eq_overflow_iff.mp stopped
    exact ⟨_, length, .body found parsed framed fits, beyond⟩
  · rintro ⟨start, length, adds, beyond⟩
    have stops := adds.body_stops beyond []
    rwa [List.append_nil] at stops

/-- A length that a response tells is added to an offset into what was gathered. The sum is an
offset again, unless it is one for a chunk, which is refused then, or one for a body that may be
longer than memory, which stops the program then, whatever has arrived. Nothing else stops it. A
body of a known length is handed out exactly if all its octets were gathered. -/
theorem next_of_adds {limits : Limits} {calls : List Call}
    (few : (calls.flatMap Call.octets).length < memoryLimit) :
    let receiver := ((new limits).run calls).2
    (∀ framing start length, receiver.Adds framing start length →
      start ≤ receiver.gathered.length ∧
      (start + length < wordLimit ∨
        framing = .chunked ∧ receiver.next = (.error .invalidChunk, receiver) ∨
        framing = .contentLength length ∧ memoryLimit < limits.body ∧
          ∀ more, (⟨limits, receiver.gathered ++ more⟩ : Receiver).next.1 = .error .overflow) ∧
      (framing = .contentLength length →
        ((Call.next.make receiver).1.response?.isSome = true ↔
          start + length ≤ receiver.gathered.length))) ∧
    (receiver.next.1 = .error .overflow ↔ ∃ start length,
      receiver.Adds (.contentLength length) start length ∧ wordLimit ≤ start + length) := by
  intro receiver
  have sameLimits : receiver.limits = limits := limits_run (new limits) calls
  have fewGathered : receiver.gathered.length < memoryLimit := by
    have gathered : receiver.gathered = fedSince limits calls :=
      congrArg Receiver.gathered (run_snd limits calls)
    rw [gathered]
    exact Nat.lt_of_le_of_lt (length_fedSince_le limits calls) few
  refine ⟨fun framing start length adds => ?_, next_eq_overflow_iff⟩
  have inside : start ≤ receiver.gathered.length := adds.start_le
  rw [← sameLimits]
  cases framing with
  | chunked =>
    refine ⟨inside, ?_, nofun⟩
    rcases adds.chunk_lt_or with addressable | refused
    · exact Or.inl addressable
    · exact Or.inr (Or.inl ⟨rfl, refused⟩)
  | contentLength told =>
    obtain rfl : told = length := by cases adds; rfl
    refine ⟨inside, ?_, fun _ => ?_⟩
    · refine or_iff_not_imp_left.mpr fun beyond => Or.inr ⟨rfl, ?_, fun more => ?_⟩
      · have fits : told ≤ receiver.limits.body := by
          cases adds with
          | body found parsed framed fits => exact fits
        have half : memoryLimit + memoryLimit = wordLimit := rfl
        omega
      · exact adds.body_stops (Nat.le_of_not_lt beyond) more
    · exact adds.body_handed_iff (Nat.lt_trans fewGathered (by decide))
  | untilClose => cases adds
  | empty => cases adds

/-- A response that tells the largest length of 64 bits. -/
def longestBody : Octets :=
  Ascii.octets "HTTP/1.1 200 OK\r\nContent-Length: 18446744073709551615\r\n\r\n"

/-- A response with a chunk of the largest size of 64 bits. -/
def longestChunk : Octets :=
  Ascii.octets "HTTP/1.1 200 OK\r\nTransfer-Encoding: chunked\r\n\r\nFFFFFFFFFFFFFFFF\r\n"

/-- A receiver of octets that allows bodies of all lengths of 64 bits. -/
def unlimited (octets : Octets) : Receiver :=
  ((new ⟨1024, wordLimit - 1⟩).run [.feed octets]).2

theorem adds_longestBody :
    (unlimited longestBody).Adds (.contentLength (wordLimit - 1)) 57 (wordLimit - 1) :=
  @Adds.body _ (longestBody.take 53) [] ⟨"HTTP/1.1", 200, "OK",
      [⟨"Content-Length", "18446744073709551615"⟩]⟩ (wordLimit - 1)
    (by decide +kernel) (by decide +kernel) (by decide +kernel) (by decide +kernel)

theorem adds_longestChunk :
    (unlimited longestChunk).Adds .chunked 18 (wordLimit - 1 + lineEnd.length) :=
  @Adds.chunk _ (longestChunk.take 43) (longestChunk.drop 47) ⟨"HTTP/1.1", 200, "OK",
      [⟨"Transfer-Encoding", "chunked"⟩]⟩ 0 (wordLimit - 1) 0 (wordLimit - 1) []
    (longestChunk.drop 47) ((longestChunk.drop 47).take 16) []
    (by decide +kernel) (by decide +kernel) (by decide +kernel) rfl (by decide +kernel)
    (by decide +kernel) (by decide) (Nat.le_refl _)

/-- The chunk is refused, and the body stops the program. -/
theorem next_of_adds_longestBody :
    (unlimited longestChunk).next = (.error .invalidChunk, unlimited longestChunk) ∧
      wordLimit ≤ 57 + (wordLimit - 1) ∧
      (unlimited longestBody).next.1 = .error .overflow ∧
      (∀ more, (⟨⟨1024, wordLimit - 1⟩,
        (unlimited longestBody).gathered ++ more⟩ : Receiver).next.1 = .error .overflow) ∧
      ¬ 57 + (wordLimit - 1) ≤ (unlimited longestBody).gathered.length := by
  obtain ⟨ofChunk, _⟩ := @next_of_adds ⟨1024, wordLimit - 1⟩ [.feed longestChunk] (by decide)
  obtain ⟨ofBody, stops⟩ := @next_of_adds ⟨1024, wordLimit - 1⟩ [.feed longestBody] (by decide)
  obtain ⟨_, chunkChecked, _⟩ := ofChunk _ _ _ adds_longestChunk
  obtain ⟨_, bodyUnchecked, handed⟩ := ofBody _ _ _ adds_longestBody
  refine ⟨?_, by decide, stops.mpr ⟨_, _, adds_longestBody, by decide⟩, ?_, fun whole => ?_⟩
  · rcases chunkChecked with addressable | ⟨_, refused⟩ | ⟨other, _⟩
    · exact absurd addressable (by decide)
    · exact refused
    · cases other
  · rcases bodyUnchecked with addressable | ⟨other, _⟩ | ⟨_, _, always⟩
    · exact absurd addressable (by decide)
    · cases other
    · exact always
  · exact absurd ((handed rfl).mpr whole) (by decide +kernel)

/-- Not every sum is an offset or detected: the one for the body stops the program. -/
theorem not_addressable_of_adds :
    ¬ ∀ (limits : Limits) (calls : List Call), limits.head < wordLimit → limits.body < wordLimit →
      (calls.flatMap Call.octets).length < memoryLimit → ∀ framing start length,
        ((new limits).run calls).2.Adds framing start length →
          start + length < wordLimit ∨ ((new limits).run calls).2.next.1 ≠ .error .overflow := by
  intro detected
  have stops := adds_longestBody.body_stops (by decide) []
  rcases detected _ _ (by decide) (by decide) (by decide) _ _ _ adds_longestBody with
    addressable | goesOn
  · exact absurd addressable (by decide)
  · exact goesOn stops

end Receiver

end WebFetch
