/-
This file says that frames and octets determine each other. Frames that fit their fields are read
back one after the other, whatever follows them, and each takes as many octets as it was written in;
a beginning of one that is not the whole is told to be incomplete. Octets of which a frame was read
are the ones that the frame is written in, except for the reserved bit before the stream.
-/

import WebFetch.Proofs.Frame.Sequence

namespace WebFetch

/-- A type keeps the number that it was found by. -/
theorem FrameType.code_ofCode (code : UInt8) : (ofCode code).code = code := by
  unfold ofCode
  split_ifs with data headers priority rstStream settings pushPromise ping goAway windowUpdate
    continuation
  all_goals
    subst_vars
    rfl

namespace Frame

/-! ### Frames one after the other -/

/-- The first `count` frames of octets, each with the number of octets it takes, and the octets
after them. -/
def parseMany : (count : Nat) → Octets → Except FrameError (List (Frame × Nat) × Octets)
  | 0, octets => .ok ([], octets)
  | count + 1, octets => do
    let (frame, rest) ← parse octets
    let (later, last) ← parseMany count rest
    return ((frame, octets.length - rest.length) :: later, last)

theorem length_encode (frame : Frame) :
    frame.encode.length = FrameHeader.size + frame.payload.length := by
  rw [encode, List.length_append, length_header]

/-- Frames that fit their fields are read back in order, and each takes the octets that it was
written in. -/
theorem parseMany_encodeAll {frames : List Frame} (fits : ∀ frame ∈ frames, frame.Fits)
    (trailing : Octets) :
    parseMany frames.length (encodeAll frames ++ trailing) =
      .ok (frames.map fun frame => (frame, FrameHeader.size + frame.payload.length), trailing) := by
  induction frames with
  | nil => rfl
  | cons frame frames inductionHypothesis =>
    have taken : (frame.encode ++ (encodeAll frames ++ trailing)).length -
        (encodeAll frames ++ trailing).length = FrameHeader.size + frame.payload.length := by
      rw [List.length_append, Nat.add_sub_cancel, length_encode]
    have others := inductionHypothesis fun other member =>
      fits other (List.mem_cons_of_mem _ member)
    rw [encodeAll_cons, List.append_assoc, List.length_cons, parseMany,
      parse_encode (fits frame List.mem_cons_self)]
    simp only [bind, Except.bind, others, taken]
    rfl

/-! ### Octets of which a frame is read -/

/-- Octets that begin a frame, without the reserved bit before its stream. -/
def clearReserved (octets : Octets) : Octets := octets.modify 5 (· &&& 0x7f)

/-- The remainder leaves the reserved bit out. -/
theorem ofNat_toNat_mod (first second third fourth : UInt8) :
    Octets.ofNat 4 (Octets.toNat [first, second, third, fourth] % wordLimit31) =
      [first &&& 0x7f, second, third, fourth] := by
  have low : (first &&& 0x7f).toNat = first.toNat % 128 := by
    rw [UInt8.toNat_and]
    exact Nat.and_two_pow_sub_one_eq_mod first.toNat 7
  have cleared : Octets.toNat [first, second, third, fourth] % wordLimit31 =
      Octets.toNat [first &&& 0x7f, second, third, fourth] := by
    have secondSmall := second.toNat_lt
    have thirdSmall := third.toNat_lt
    have fourthSmall := fourth.toNat_lt
    simp only [Octets.toNat, List.foldl_cons, List.foldl_nil, low, wordLimit31]
    omega
  rw [cleared]
  exact Octets.ofNat_toNat [first &&& 0x7f, second, third, fourth]

/-- The stream of a header that is read has 31 bits. -/
theorem stream_lt_of_parseHeader {octets : Octets} {header : FrameHeader}
    (found : FrameHeader.parse octets = .ok header) : header.stream.toNat < wordLimit31 := by
  unfold FrameHeader.parse at found
  split at found
  · cases found
    have small (value : Nat) : value % wordLimit31 < wordLimit31 := Nat.mod_lt _ (by decide)
    show (UInt32.ofNat (_ % wordLimit31)).toNat < wordLimit31
    rw [UInt32.toNat_ofNat_of_lt' (Nat.lt_trans (small _) (by decide))]
    exact small _
  · cases found

/-- A header and a payload as long as it says are written in the octets that they were read from,
without the reserved bit. -/
theorem encode_withPayload {octets payload : Octets} {header : FrameHeader}
    (found : FrameHeader.parse octets = .ok header)
    (length : payload.length = header.length.toNat) :
    (header.withPayload payload).encode =
      clearReserved (octets.take FrameHeader.size ++ payload) := by
  have stream := stream_lt_of_parseHeader found
  unfold FrameHeader.parse at found
  split at found
  · rename_i length0 length1 length2 type flags stream0 stream1 stream2 stream3 rest
    cases found
    dsimp only at stream length
    have lengthSmall : Octets.toNat [length0, length1, length2] < wordLimit24 :=
      Nat.lt_of_lt_of_eq (Octets.toNat_lt [length0, length1, length2])
        (by decide : 256 ^ 3 = wordLimit24)
    have count : payload.length = Octets.toNat [length0, length1, length2] :=
      length.trans (Nat.mod_eq_of_lt lengthSmall)
    have lengthOctets : Octets.ofNat 3 payload.length = [length0, length1, length2] := by
      rw [count]
      exact Octets.ofNat_toNat [length0, length1, length2]
    have streamOctets : Octets.ofNat 4 ((UInt32.ofNat
        (Octets.toNat [stream0, stream1, stream2, stream3] % wordLimit31)).toNat % wordLimit31) =
          [stream0 &&& 0x7f, stream1, stream2, stream3] := by
      have small : Octets.toNat [stream0, stream1, stream2, stream3] % wordLimit31 < wordLimit31 :=
        Nat.mod_lt _ (by decide)
      rw [UInt32.toNat_ofNat_of_lt' (Nat.lt_trans small (by decide)), Nat.mod_mod, ofNat_toNat_mod]
    rw [encode, Frame.header, FrameHeader.withPayload, FrameType.code_ofCode, lengthOctets,
      streamOctets]
    rfl
  · cases found

/-- A frame that is read fits its fields, and is written in the octets that it was read from,
without the reserved bit. -/
theorem encode_of_parse {octets rest : Octets} {frame : Frame}
    (found : parse octets = .ok (frame, rest)) :
    FrameHeader.size + frame.payload.length ≤ octets.length ∧
      rest = octets.drop (FrameHeader.size + frame.payload.length) ∧ frame.Fits ∧
      frame.encode = clearReserved (octets.take (FrameHeader.size + frame.payload.length)) := by
  obtain ⟨header, headerRead, taken⟩ := exists_ok_of_bind found
  have long := size_le_of_parseHeader headerRead
  simp only [FrameHeader.takeFrame, List.length_take, List.length_drop] at taken
  split at taken
  · cases taken
  · rename_i enough
    cases taken
    have length : ((octets.drop FrameHeader.size).take header.length.toNat).length =
        header.length.toNat := by
      rw [List.length_take, List.length_drop]
      omega
    have small : ((octets.drop FrameHeader.size).take header.length.toNat).length <
        wordLimit24 := by
      rw [length]
      exact header.length.toNat_lt
    have parts : octets.take (FrameHeader.size + header.length.toNat) =
        octets.take FrameHeader.size ++ (octets.drop FrameHeader.size).take header.length.toNat :=
      List.take_add
    refine ⟨?_, ?_, ⟨?_, small, stream_lt_of_parseHeader headerRead⟩, ?_⟩
    · show FrameHeader.size + List.length (List.take _ _) ≤ _
      rw [length]
      omega
    · show _ = octets.drop (FrameHeader.size + List.length (List.take _ _))
      rw [length, List.drop_drop]
    · exact congrArg FrameType.ofCode (FrameType.code_ofCode header.type)
    · show _ = clearReserved (octets.take (FrameHeader.size + List.length (List.take _ _)))
      rw [length, parts]
      exact encode_withPayload headerRead length

/-- Frames that fit their fields are read back in order, each from the octets that it was written
in, whatever comes after the last; a beginning of such a frame that lacks octets is incomplete.
Octets of which a frame is read are at least as many as it is written in; it fits its fields, and
those octets are the ones it is written in, except for the reserved bit. -/
theorem frames_roundTrip :
    (∀ (frames : List Frame) (trailing : Octets), (∀ frame ∈ frames, frame.Fits) →
      parseMany frames.length (encodeAll frames ++ trailing) =
        .ok (frames.map fun frame => (frame, FrameHeader.size + frame.payload.length),
          trailing)) ∧
    (∀ (frame : Frame) (octets : Octets), frame.Fits → octets <+: frame.encode →
      octets ≠ frame.encode → parse octets = .error .incomplete) ∧
    ∀ (octets rest : Octets) (frame : Frame), parse octets = .ok (frame, rest) →
      let count := FrameHeader.size + frame.payload.length
      count ≤ octets.length ∧ rest = octets.drop count ∧ frame.Fits ∧
        frame.encode = clearReserved (octets.take count) := by
  refine ⟨fun frames trailing fits => parseMany_encodeAll fits trailing, ?_,
    fun octets rest frame found => encode_of_parse found⟩
  intro frame octets fits beginning notWhole
  refine parse_of_lt_encode fits beginning (Nat.lt_of_le_of_ne beginning.length_le ?_)
  exact fun same => notWhole (beginning.eq_of_length same)

/-- A frame of a type that is not defined, with all flags. -/
def unknownFrame : Frame := ⟨.unknown 0x42, 0xff, 0x7fffffff, [1, 2, 3]⟩

/-- The octets of the frame with the reserved bit, and one octet more. -/
def reservedOctets : Octets :=
  [0, 0, 3, 0x42, 0xff, 0xff, 0xff, 0xff, 0xff, 1, 2, 3, 0]

theorem frames_roundTrip_unknownFrame :
    (∀ frame ∈ [Frame.settingsAck, unknownFrame], frame.Fits) ∧
      parseMany 2 (encodeAll [Frame.settingsAck, unknownFrame] ++ reservedOctets) =
        .ok ([(Frame.settingsAck, 9), (unknownFrame, 12)], reservedOctets) ∧
      parse (unknownFrame.encode.take 11) = .error .incomplete ∧
      parse reservedOctets = .ok (unknownFrame, [0]) ∧
      unknownFrame.encode = clearReserved (reservedOctets.take 12) := by
  have fits : ∀ frame ∈ [Frame.settingsAck, unknownFrame], frame.Fits := by decide
  obtain ⟨readBack, shortened, written⟩ := frames_roundTrip
  have found : parse reservedOctets = .ok (unknownFrame, [0]) := by rfl
  refine ⟨fits, readBack _ reservedOctets fits, ?_, found, (written _ _ _ found).2.2.2⟩
  exact shortened unknownFrame _ (fits _ (by decide)) (List.take_prefix _ _) (by decide)

end Frame

end WebFetch
