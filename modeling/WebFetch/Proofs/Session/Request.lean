/-
This file follows a request from one session to another. Its header block is cut into frames of
which the octets are read back as the same frames, and a session that reads these octets gets the
header fields of the request, whatever its table holds. A block of which a piece is too large is
refused before anything is written.
-/

import WebFetch.Proofs.Session.Block
import WebFetch.Proofs.Session.Reassembly

namespace WebFetch.Session

/-! ### The frames of a header block -/

/-- What the frame at a place of a header block in `count` frames is like, when frames carry at most
`most` octets. -/
structure CarriesPiece (most count place : Nat) (frame : Frame) : Prop where
  type : frame.type = if place = 0 then .headers else .continuation
  stream : frame.stream = 1
  endStream : frame.has Flag.endStream = decide (place = 0)
  endHeaders : frame.has Flag.endHeaders = decide (place + 1 = count)
  length_le : frame.payload.length ≤ most
  length_eq : place + 1 ≠ count → frame.payload.length = most

/-- Frames that carry a header block. -/
structure CarriesBlock (most : Nat) (block : Octets) (frames : List Frame) : Prop where
  nonempty : frames ≠ []
  carries : ∀ place frame, frames[place]? = some frame →
    CarriesPiece most frames.length place frame
  block : frames.flatMap Frame.payload = block

theorem pieceFrame_carries {most count place : Nat} {piece : Octets}
    (bounded : piece.length ≤ most) (full : place + 1 ≠ count → piece.length = most) :
    CarriesPiece most count place (pieceFrame place (decide (place + 1 = count)) piece) :=
  ⟨rfl, rfl, pieceFlags_endStream _ _, pieceFlags_endHeaders _ _, bounded, full⟩

theorem payload_pieceFrames (place : Nat) (pieces : List Octets) :
    (pieceFrames place pieces).flatMap Frame.payload = pieces.flatten := by
  induction pieces generalizing place with
  | nil => rfl
  | cons piece later inductionHypothesis =>
    rw [pieceFrames, List.flatMap_cons, inductionHypothesis, List.flatten_cons]
    rfl

/-- The frames of the pieces of a block carry the block. -/
theorem pieceFrames_carry (limit : Nat) (block : Octets) :
    CarriesBlock (max limit 1) block (pieceFrames 0 (pieces limit block)) := by
  obtain ⟨first, others, cut, whole, _, bounded, full⟩ := pieces_cut limit block
  rw [cut]
  refine ⟨List.cons_ne_nil _ _, ?_, ?_⟩
  · intro place frame found
    rw [length_pieceFrames]
    rw [getElem?_pieceFrames, Option.map_eq_some_iff, Nat.zero_add] at found
    obtain ⟨piece, pieceFound, rfl⟩ := found
    refine pieceFrame_carries ?_ (full place piece pieceFound)
    exact Nat.le_trans (bounded piece (List.mem_of_getElem? pieceFound)) (Nat.min_le_right _ _)
  · rw [payload_pieceFrames, whole]

/-! ### Reading a header block -/

/-- A first piece with nothing around it. -/
def Wrapping.plain : Wrapping :=
  ⟨none, none, fun _ given => (nomatch given), fun _ given => (nomatch given)⟩

/-- The frames of the pieces after the first go on with the block. -/
theorem continues_pieceFrames {place : Nat} (later : place ≠ 0) (pieces : List Octets) :
    Continues pieces.isEmpty (pieceFrames place pieces) := by
  induction pieces generalizing place with
  | nil => rfl
  | cons piece others inductionHypothesis =>
    refine ⟨rfl, if_neg later, ?_⟩
    have ends : (pieceFrame place others.isEmpty piece).has Flag.endHeaders = others.isEmpty :=
      pieceFlags_endHeaders _ _
    rw [ends]
    exact inductionHypothesis (Nat.succ_ne_zero place)

/-- The frames of the pieces of a block carry the block with nothing around it. -/
theorem carriesWrapped_pieceFrames (first : Octets) (others : List Octets) :
    CarriesWrapped .plain (first :: others).flatten (pieceFrame 0 others.isEmpty first)
      (pieceFrames 1 others) := by
  obtain ⟨notPadded, noPriority⟩ := pieceFlags_others true others.isEmpty
  have ends : (pieceFrame 0 others.isEmpty first).has Flag.endHeaders = others.isEmpty :=
    pieceFlags_endHeaders true others.isEmpty
  refine ⟨rfl, notPadded, noPriority, ⟨first, (List.append_nil first).symm, ?_⟩, ?_⟩
  · rw [payload_pieceFrames, List.flatten_cons]
  · rw [ends]
    exact continues_pieceFrames Nat.one_ne_zero others

/-- The frames of a block of header fields are read as these fields. -/
theorem readHeaders_of_pending {limit : Nat} {headers : List Header} {session : Session}
    {rest : Octets} (small : min (Hpack.encode headers).length (max limit 1) < wordLimit24)
    (short : (Hpack.encode headers).length < wordLimit)
    (pending : session.stream.pending =
      Frame.encodeAll (pieceFrames 0 (pieces limit (Hpack.encode headers))) ++ rest) :
    ∃ later, readHeaders session = (.ok (headers, true), later) ∧
      later.stream.pending = rest ∧ later.table = session.table := by
  obtain ⟨first, others, cut, whole, _, bounded, _⟩ := pieces_cut limit (Hpack.encode headers)
  have fits : ∀ frame ∈ pieceFrames 0 (first :: others), frame.Fits :=
    pieceFrames_fit fun piece member => Nat.lt_of_le_of_lt (bounded piece member) small
  have endsStream : (pieceFrame 0 others.isEmpty first).has Flag.endStream = true :=
    pieceFlags_endStream true others.isEmpty
  rw [cut] at pending
  obtain ⟨later, read, left, tableAfter⟩ := readHeaders_of_wrapped
    (carriesWrapped_pieceFrames first others) fits pending session.journal
  obtain ⟨decoded, sameTable⟩ := Hpack.decode_encode session.table session.journal short
  rw [endsStream, whole, decoded] at read
  rw [whole, sameTable] at tableAfter
  exact ⟨later, read, left, tableAfter⟩

/-! ### Requests -/

/-- A request that is sent on a stream that accepts everything is written as frames that carry its
header block, and a session that reads them, with any table, gets the header fields of the request
and keeps its table; no block in memory has `2 ^ 63` octets. If the first piece of the block is too
large for a frame, nothing is written. -/
theorem sendRequest_survives_framing (request : Request) (session : Session) :
    let block := Hpack.encode request.headerList
    let most := max session.options.payloadLimit 1
    (session.stream.Accepts → min block.length most < wordLimit24 →
      ∃ later octets frames, sendRequest request session = (.ok (), later) ∧
        later.stream.written = session.stream.written ++ octets ∧
        Frame.parseAll octets = (frames, []) ∧ CarriesBlock most block frames ∧
        (block.length < 2 ^ 63 → ∀ (reader : Session) (rest : Octets),
          reader.stream.pending = octets ++ rest →
            ∃ done, readHeaders reader = (.ok (request.headerList, true), done) ∧
              done.stream.pending = rest ∧ done.table = reader.table)) ∧
    (wordLimit24 ≤ min block.length most →
      sendRequest request session =
        (.error (.frame (.lengthTooLarge (min block.length most))), session)) := by
  intro block most
  refine ⟨fun accepts small => ?_, fun large => ?_⟩
  · have built := blockFrames_of_lt small
    obtain ⟨later, wrote, _, written⟩ := writeFrames_of_accepts accepts
      (pieceFrames 0 (pieces session.options.payloadLimit block))
    refine ⟨later, _, _, ?_, written, Frame.parseAll_encodeAll (fits_of_blockFrames built),
      pieceFrames_carry _ _, fun short reader rest pending => ?_⟩
    · rw [sendRequest, built]
      exact wrote
    · exact readHeaders_of_pending small (Nat.lt_trans short (by decide)) pending
  · rw [sendRequest, blockFrames_of_le large]

/-- A request whose header block needs several small frames. -/
def splitRequest : Request :=
  ⟨"https", "example.com", "/index.html", [Header.ofText "X-Trace" "on"]⟩

/-- A session whose frames carry at most sixteen octets of a block each. -/
def splitSession : Session :=
  new ⟨[], 16⟩ (Stream.ofEvents []) .silent

theorem sendRequest_survives_framing_splitRequest :
    splitSession.stream.Accepts ∧ (Hpack.encode splitRequest.headerList).length = 83 ∧
      ∃ later octets frames, sendRequest splitRequest splitSession = (.ok (), later) ∧
        later.stream.written = octets ∧ Frame.parseAll octets = (frames, []) ∧
        CarriesBlock 16 (Hpack.encode splitRequest.headerList) frames ∧
        ∃ done, readHeaders (new .default (Stream.ofEvents [.arrive octets]) .silent) =
            (.ok (splitRequest.headerList, true), done) ∧
          done.table = .empty DynamicTable.defaultMaximum := by
  have accepts : splitSession.stream.Accepts := ⟨fun _ member => (nomatch member), rfl, rfl⟩
  have length : (Hpack.encode splitRequest.headerList).length = 83 := by decide +kernel
  obtain ⟨later, octets, frames, sent, written, parsed, carried, read⟩ :=
    (sendRequest_survives_framing splitRequest splitSession).1 accepts (by rw [length]; decide)
  obtain ⟨done, found, _, table⟩ := read (by rw [length]; decide)
    (new .default (Stream.ofEvents [.arrive octets]) .silent) [] rfl
  exact ⟨accepts, length, later, octets, frames, sent, written, parsed, carried, done, found, table⟩

end WebFetch.Session
