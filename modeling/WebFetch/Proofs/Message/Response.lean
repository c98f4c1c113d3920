/-
This file is about responses as they are written: a head, and a body of which the head tells the
length, a body in chunks, or a body that ends with the connection. Such a response is received as it
was written, however it arrives, and one whose end the octets tell is not received before its end.
-/

import WebFetch.Proofs.Message.Head
import WebFetch.Proofs.Message.Receiver

namespace WebFetch

open Message (headEnd)

/-! ### Responses that can be written -/

/-- How the end of a body is told. -/
inductive Transfer where
  /-- By a length in the head. -/
  | measured (body : Octets)
  /-- By a last chunk after the others. -/
  | chunked (chunks : List Octets)
  /-- By the end of the connection. -/
  | closing (body : Octets)

namespace Transfer

def body : Transfer → Octets
  | measured body => body
  | chunked chunks => chunks.flatten
  | closing body => body

/-- The octets that follow the head. -/
def octets : Transfer → Octets
  | measured body => body
  | chunked chunks => Chunked.encode chunks
  | closing body => body

/-- The fields of the head that tell the end of the body. -/
def fields : Transfer → List Field
  | measured body => [⟨"Content-Length", body.length.repr⟩]
  | chunked _ => [⟨"Transfer-Encoding", "chunked"⟩]
  | closing _ => []

def framing : Transfer → Framing
  | measured body => .contentLength body.length
  | chunked _ => .chunked
  | closing _ => .untilClose

/-- Whether no chunk but the last is empty. -/
def Proper : Transfer → Prop
  | chunked chunks => ∀ chunk ∈ chunks, chunk ≠ []
  | _ => True

end Transfer

/-- Whether a field tells nothing about the end of a body. -/
structure Field.Neutral (field : Field) : Prop where
  noLength : Ascii.sameIgnoringCase field.name "content-length" = false
  noCoding : Ascii.sameIgnoringCase field.name "transfer-encoding" = false

/-- Whether a head can be written and tells the end of a body, by a field between others that tell
nothing about it or by none. -/
structure Head.Announces (head : Head) (transfer : Transfer) : Prop extends
    PlainStatus head where
  status_embodied : 200 ≤ head.status.toNat ∧ head.status ≠ 204 ∧ head.status ≠ 304
  fields_neutral : ∃ before after, head.fields = before ++ transfer.fields ++ after ∧
    ∀ field ∈ before ++ after, field.Plain ∧ field.Neutral

/-! ### What the head tells -/

/-- Fields of other names do not change what is looked up. -/
theorem Field.lookup_between {name : String} {before after : List Field}
    (absent : ∀ field ∈ before ++ after, Ascii.sameIgnoringCase field.name name = false)
    (fields : List Field) : lookup (before ++ fields ++ after) name = lookup fields name := by
  have noneOf : ∀ others : List Field, (∀ field ∈ others, field ∈ before ++ after) →
      others.find? (fun field => Ascii.sameIgnoringCase field.name name) = none :=
    fun others within => List.find?_eq_none.mpr fun field member => by
      simp [absent field (within field member)]
  have noneBefore := noneOf before fun _ => List.mem_append_left _
  have noneAfter := noneOf after fun _ => List.mem_append_right _
  rw [lookup, List.find?_append, List.find?_append, noneBefore, noneAfter, Option.none_or,
    Option.or_none, lookup]

theorem Field.lookup_singleton (field : Field) (name : String) :
    lookup [field] name =
      if Ascii.sameIgnoringCase field.name name then some field.value else none := by
  rw [lookup, List.find?_singleton]
  split <;> rfl

namespace Transfer

/-- The fields that tell the end of a body can stand in a line. -/
theorem fields_plain (transfer : Transfer) : ∀ field ∈ transfer.fields, field.Plain := by
  intro field member
  cases transfer with
  | measured body =>
    have isLength := List.mem_singleton.mp member
    have digits : '\r' ∉ Nat.toDigits 10 body.length :=
      Numeral.not_mem_toDigits .ten (by decide) _
    have trimmed := Numeral.trim_toDigits .ten body.length
    rw [isLength]
    refine ⟨?_, ?_, ?_, by rwa [Nat.toList_repr], by rwa [Nat.toList_repr]⟩
    · exact (by decide : '\r' ∉ "Content-Length".toList)
    · exact (by decide : ':' ∉ "Content-Length".toList)
    · exact (by decide : trim "Content-Length".toList = "Content-Length".toList)
  | chunked chunks =>
    have isCoding := List.mem_singleton.mp member
    rw [isCoding]
    exact ⟨by decide, by decide, by decide, by decide, by decide⟩
  | closing body => cases member

end Transfer

namespace Head

theorem Announces.plain {head : Head} {transfer : Transfer} (announces : head.Announces transfer) :
    head.Plain := by
  obtain ⟨before, after, parts, others⟩ := announces.fields_neutral
  refine ⟨announces.toPlainStatus, fun field member => ?_⟩
  rw [parts, List.mem_append, List.mem_append, or_right_comm, ← List.mem_append] at member
  rcases member with other | own
  · exact (others field other).1
  · exact transfer.fields_plain field own

/-- The end of the body is found as the head tells it. -/
theorem Announces.framing {head : Head} {transfer : Transfer}
    (announces : head.Announces transfer) (small : transfer.octets.length < wordLimit) :
    Framing.ofFields head.status head.fields = .ok transfer.framing := by
  obtain ⟨before, after, parts, others⟩ := announces.fields_neutral
  have embodied : Framing.isBodiless head.status = false := by
    obtain ⟨high, noContent, notModified⟩ := announces.status_embodied
    have notLow : ¬ head.status < 200 := by
      rw [UInt16.lt_iff_toNat_lt]
      exact Nat.not_lt.mpr high
    simp [Framing.isBodiless, notLow, noContent, notModified]
  have coding : Field.lookup head.fields "transfer-encoding" =
      Field.lookup transfer.fields "transfer-encoding" := by
    rw [parts]
    exact Field.lookup_between (fun field member => (others field member).2.noCoding) _
  have length : Field.lookup head.fields "content-length" =
      Field.lookup transfer.fields "content-length" := by
    rw [parts]
    exact Field.lookup_between (fun field member => (others field member).2.noLength) _
  rw [Framing.ofFields, if_neg (by rw [embodied]; nofun), coding, length]
  cases transfer with
  | measured body =>
    have noCoding : Field.lookup (Transfer.measured body).fields "transfer-encoding" = none :=
      (Field.lookup_singleton _ _).trans (if_neg
        (by decide : ¬ Ascii.sameIgnoringCase "Content-Length" "transfer-encoding" = true))
    have someLength : Field.lookup (Transfer.measured body).fields "content-length" =
        some body.length.repr :=
      (Field.lookup_singleton _ _).trans (if_pos
        (by decide : Ascii.sameIgnoringCase "Content-Length" "content-length" = true))
    have number : Numeral.parse 10 wordLimit (trim body.length.repr.toList) = .ok body.length := by
      rw [Nat.toList_repr, Numeral.trim_toDigits .ten]
      exact Numeral.parse_toDigits .ten small
    rw [noCoding, someLength]
    dsimp only [Framing.ofContentLength]
    rw [number]
    rfl
  | chunked chunks =>
    have someCoding : Field.lookup (Transfer.chunked chunks).fields "transfer-encoding" =
        some "chunked" :=
      (Field.lookup_singleton _ _).trans (if_pos
        (by decide : Ascii.sameIgnoringCase "Transfer-Encoding" "transfer-encoding" = true))
    have isChunked : Framing.ofTransferCoding "chunked" = .ok .chunked := by
      rw [Framing.ofTransferCoding, if_pos (by decide)]
    rw [someCoding]
    exact isChunked
  | closing body => rfl

end Head

/-! ### Arrival of the body -/

namespace Receiver

/-- Octets of a known length are there once they have arrived as a whole, and not before. -/
theorem slice?_part {before part rest octets : Octets} (parts : part ++ rest = octets)
    (addressable : before.length + octets.length < wordLimit) :
    slice? (before ++ part) before.length octets.length =
      .ok (if rest = [] then some octets else none) := by
  have lengths := congrArg List.length parts
  rw [List.length_append] at lengths
  rw [slice?, if_neg (Nat.not_le.mpr addressable), List.length_append, List.drop_left]
  match rest with
  | [] =>
    rw [List.append_nil] at parts
    rw [List.length_nil] at lengths
    rw [if_neg (by omega), if_pos rfl, parts, List.take_length]
  | first :: others =>
    rw [List.length_cons] at lengths
    rw [if_pos (by omega), if_neg (List.cons_ne_nil first others)]

/-- Whether a response can be written and is within limits. -/
structure Receivable (limits : Limits) (head : Head) (transfer : Transfer) : Prop where
  announces : head.Announces transfer
  proper : transfer.Proper
  head_small : head.octets.length ≤ limits.head
  body_small : transfer.body.length ≤ limits.body
  whole_small : (head.octets ++ transfer.octets).length ≤ limits.head + limits.body
  addressable : (head.octets ++ transfer.octets).length < wordLimit

variable {limits : Limits} {head : Head} {transfer : Transfer}

/-- A body whose end the octets tell is found once it has arrived as a whole, and not before. -/
theorem body?_part (receivable : Receivable limits head transfer) {part rest : Octets}
    (parts : part ++ rest = transfer.octets) (told : transfer.framing ≠ .untilClose) :
    body? limits (head.octets ++ part) head.octets.length transfer.framing =
      .ok (if rest = [] then some transfer.body else none) := by
  have addressable := receivable.addressable
  rw [List.length_append] at addressable
  cases transfer with
  | measured body =>
    have small : ¬ limits.body < body.length := Nat.not_lt.mpr receivable.body_small
    rw [Transfer.framing, body?, if_neg small]
    exact slice?_part parts addressable
  | chunked chunks =>
    have inside : 0 + (Chunked.encode chunks).length < wordLimit := by
      rw [Transfer.octets] at addressable
      omega
    rw [Transfer.framing, body?, List.drop_left, Chunked.decode,
      Chunked.decodeFrom_part parts receivable.proper receivable.body_small inside]
    rfl
  | closing body => exact absurd rfl told

/-! ### Arrival of the response -/

theorem Receivable.admits (receivable : Receivable limits head transfer) :
    limits.Admits (head.octets ++ transfer.octets) := by
  have first := firstAt_of_cut (Head.cut_octets receivable.announces.plain transfer.octets)
  have inHead := receivable.head_small
  rw [Head.octets_eq, List.length_append] at inHead
  exact Or.inr ⟨_, first, inHead, receivable.whole_small⟩

theorem Receivable.framing (receivable : Receivable limits head transfer) :
    Framing.ofFields head.status head.fields = .ok transfer.framing := by
  have addressable := receivable.addressable
  rw [List.length_append] at addressable
  exact receivable.announces.framing (by omega)

/-- What is read of a response whose head has arrived. -/
theorem response?_part (receivable : Receivable limits head transfer) (part : Octets) :
    response? limits (head.octets ++ part) =
      (body? limits (head.octets ++ part) head.octets.length transfer.framing).map
        (Option.map head.withBody) := by
  have plain := receivable.announces.plain
  have start : head.opening.length + headEnd.length = head.octets.length := by
    rw [Head.octets_eq, List.length_append]
  rw [response?_of_head limits (Head.cut_octets plain part) (Head.parse_opening plain)
    receivable.framing, start]

/-- What is left of a response whose head has arrived when no more will come. -/
theorem lastResponse_part (receivable : Receivable limits head transfer) (part : Octets) :
    lastResponse (head.octets ++ part) =
      if transfer.framing = .untilClose then .ok (head.withBody part) else .error .incomplete := by
  have plain := receivable.announces.plain
  rw [lastResponse, Head.cut_octets plain part]
  dsimp only
  rw [Head.parse_opening plain]
  simp only [bind, Except.bind, receivable.framing]
  cases transfer <;> rfl

theorem response?_whole (receivable : Receivable limits head transfer)
    (told : transfer.framing ≠ .untilClose) :
    response? limits (head.octets ++ transfer.octets) =
      .ok (some (head.withBody transfer.body)) := by
  rw [response?_part receivable, body?_part receivable (List.append_nil _) told]
  rfl

/-- The whole response is answered with what was written. -/
theorem answer_whole (receivable : Receivable limits head transfer) :
    answer limits (head.octets ++ transfer.octets) = .ok (head.withBody transfer.body) := by
  by_cases told : transfer.framing = .untilClose
  · rw [answer, response?_part receivable, told, lastResponse_part receivable, if_pos told]
    cases transfer with
    | closing body => rfl
    | measured body => cases told
    | chunked chunks => cases told
  · rw [answer, response?_whole receivable told]

/-- A response that ends before it tells its end is answered as incomplete. -/
theorem answer_part (receivable : Receivable limits head transfer) {part rest : Octets}
    (parts : part ++ rest = head.octets ++ transfer.octets) (more : rest ≠ [])
    (told : transfer.framing ≠ .untilClose) : answer limits part = .error .incomplete := by
  have plain := receivable.announces.plain
  have found := Head.cut_octets plain transfer.octets
  rw [← parts] at found
  -- The part ends inside the head, or it holds the head and a part of the body.
  rcases cut_of_append found with ⟨uncut, -⟩ | ⟨left, foundPart, leftParts⟩
  · have admitted := receivable.admits.of_part (parts ▸ List.prefix_append part rest)
    rw [answer, response?_of_uncut uncut (length_le_of_uncut admitted uncut), lastResponse, uncut]
  · have whole : part = head.octets ++ left := by
      rw [eq_of_cut headEnd_ne_nil foundPart, Head.octets_eq]
    rw [whole, answer, response?_part receivable, body?_part receivable leftParts told, if_neg more,
      lastResponse_part receivable, if_neg told]
    rfl

/-! ### All responses -/

/-- A response is received as it was written, however its octets arrive; only a body that ends with
the connection needs the stream to end. If the stream ends earlier although the octets tell the end
of the body, the response is incomplete. -/
theorem receive_written (receivable : Receivable limits head transfer) :
    (∀ (stream : Stream) (journal : Journal),
      stream.pending = head.octets ++ transfer.octets →
      (transfer.framing = .untilClose → stream.Closes) →
      (receive (new limits) stream journal).result = .ok (head.withBody transfer.body)) ∧
    (transfer.framing ≠ .untilClose →
      ∀ part, part <+: head.octets ++ transfer.octets → part ≠ head.octets ++ transfer.octets →
      ∀ (stream : Stream) (journal : Journal), stream.pending = part → stream.Closes →
        (receive (new limits) stream journal).result = .error .incomplete) := by
  have waiting := response?_of_new limits
  constructor
  · intro stream journal pending closes
    rw [← answer_whole receivable]
    have admitted := receivable.admits
    have addressable := receivable.addressable
    rw [← pending] at admitted addressable ⊢
    refine @receive_eq (new limits) stream journal admitted addressable waiting fun unsettled => ?_
    by_cases told : transfer.framing = .untilClose
    · exact closes told
    · have settled := response?_whole receivable told
      rw [← pending] at settled
      cases unsettled.symm.trans settled
  · rintro told part before strict stream journal rfl closes
    obtain ⟨rest, parts⟩ := before
    have more : rest ≠ [] := by
      rintro rfl
      exact strict (by rw [← parts, List.append_nil])
    rw [← answer_part receivable parts more told]
    have addressable := receivable.addressable
    rw [← parts, List.length_append] at addressable
    have addressablePart : stream.pending.length < wordLimit := by omega
    exact @receive_eq (new limits) stream journal
      (receivable.admits.of_part (parts ▸ List.prefix_append _ rest)) addressablePart waiting
      fun _ => closes

/-- A chunked response whose body looks like the end of a head and like a last chunk, within the
limits that hold where none are given. -/
theorem receive_written_misleadingBody :
    let head : Head := ⟨"HTTP/1.1", 200, "Very well",
      [⟨"Server", "a: b"⟩, ⟨"Transfer-Encoding", "chunked"⟩, ⟨"Empty", ""⟩]⟩
    let transfer := Transfer.chunked [Ascii.octets "\r\n\r\n", Ascii.octets "0\r\n\r\n"]
    let octets := head.octets ++ transfer.octets
    let whole := Stream.ofEvents [.arrive (octets.take 70), .fail ⟨.interrupted, "signal"⟩,
      .arrive (octets.drop 70)]
    let cutOff := Stream.ofEvents [.arrive octets.dropLast, .fail ⟨.unexpectedEof, "cut off"⟩]
    Receivable .default head transfer ∧
      (receive (new .default) whole .silent).result = .ok (head.withBody transfer.body) ∧
      (receive (new .default) cutOff .silent).result = .error .incomplete := by
  intro head transfer octets whole cutOff
  have server : Field.Plain ⟨"Server", "a: b"⟩ ∧ Field.Neutral ⟨"Server", "a: b"⟩ :=
    ⟨⟨by decide, by decide, by decide, by decide, by decide⟩, ⟨by decide, by decide⟩⟩
  have empty : Field.Plain ⟨"Empty", ""⟩ ∧ Field.Neutral ⟨"Empty", ""⟩ :=
    ⟨⟨by decide, by decide, by decide, by decide, by decide⟩, ⟨by decide, by decide⟩⟩
  have proper : ∀ chunk ∈ [Ascii.octets "\r\n\r\n", Ascii.octets "0\r\n\r\n"], chunk ≠ [] := by
    decide
  have receivable : Receivable .default head transfer :=
    { announces :=
        { version_protocol := by decide
          version_unbroken := by decide
          version_uncut := by decide
          status_digits := by decide
          reason_unbroken := by decide
          status_embodied := by decide
          fields_neutral := ⟨[_], [_], rfl, by simpa using ⟨server, empty⟩⟩ }
      proper := proper
      head_small := by decide +kernel
      body_small := by decide +kernel
      whole_small := by decide +kernel
      addressable := by decide +kernel }
  refine ⟨receivable, (receive_written receivable).1 whole _ (by decide +kernel) nofun,
    (receive_written receivable).2 nofun octets.dropLast (List.dropLast_prefix _)
      (by decide +kernel) cutOff _ (by decide +kernel) ?_⟩
  simp [Stream.Closes, ReadEvent.Closes, cutOff, Stream.ofEvents]

end Receiver

end WebFetch
