/-
This file is about frames in octets. A frame that fits its fields is read back as it was written,
and reading it looks only at its own octets, so octets that arrive later change nothing about the
frames that are whole already. Reading a sequence of frames to the end returns the frames, and
cutting the octets short returns as many of them as are whole.
-/

import WebFetch.Frame.Payload
import WebFetch.Frame.Sequence
import WebFetch.Proofs.Octets

namespace WebFetch

/-! ### Headers -/

/-- Whether a frame fits the fields of its header. -/
structure Frame.Fits (frame : Frame) : Prop where
  /-- The type is defined, or its number is not that of a defined type. -/
  type : FrameType.ofCode frame.type.code = frame.type
  payload : frame.payload.length < wordLimit24
  stream : frame.stream.toNat < wordLimit31

instance (frame : Frame) : Decidable frame.Fits :=
  decidable_of_iff (FrameType.ofCode frame.type.code = frame.type ∧
      frame.payload.length < wordLimit24 ∧ frame.stream.toNat < wordLimit31)
    ⟨fun ⟨type, payload, stream⟩ => ⟨type, payload, stream⟩,
      fun fits => ⟨fits.type, fits.payload, fits.stream⟩⟩

namespace FrameHeader

/-- The header of a frame is read back. -/
theorem parse_header {frame : Frame} (fits : frame.Fits) (rest : Octets) :
    parse (frame.header ++ rest) =
      .ok ⟨⟨frame.payload.length, fits.payload⟩, frame.type.code, frame.flags, frame.stream⟩ := by
  have length : Octets.toNat (Octets.ofNat 3 frame.payload.length) % wordLimit24 =
      frame.payload.length := by
    rw [Octets.toNat_ofNat_of_lt fits.payload, Nat.mod_eq_of_lt fits.payload]
  have stream : Octets.toNat (Octets.ofNat 4 (frame.stream.toNat % wordLimit31)) % wordLimit31 =
      frame.stream.toNat := by
    have small : frame.stream.toNat < 256 ^ 4 := Nat.lt_trans fits.stream (by decide)
    rw [Nat.mod_eq_of_lt fits.stream, Octets.toNat_ofNat_of_lt small, Nat.mod_eq_of_lt fits.stream]
  show Except.ok (FrameHeader.mk (UInt24.ofNatModulo (Octets.toNat (Octets.ofNat 3 _))) _ _
    (UInt32.ofNat (Octets.toNat (Octets.ofNat 4 _) % wordLimit31))) = _
  simp only [UInt24.ofNatModulo, length, stream, UInt32.ofNat_toNat]

/-- Reading a header looks at its octets only. -/
theorem parse_append {octets : Octets} {header : FrameHeader} (found : parse octets = .ok header)
    (later : Octets) : parse (octets ++ later) = .ok header := by
  unfold parse at found
  split at found
  · exact found
  · cases found

/-- A frame is taken from enough octets for its payload, and has as many of them. -/
theorem eq_of_takeFrame {header : FrameHeader} {octets rest : Octets} {frame : Frame}
    (found : header.takeFrame octets = .ok (frame, rest)) :
    header.length.toNat ≤ octets.length ∧
      frame = header.withPayload (octets.take header.length.toNat) := by
  simp only [takeFrame, List.length_take] at found
  split at found
  · cases found
  · cases found
    exact ⟨by omega, rfl⟩

/-- Reading a payload looks at its octets only. -/
theorem takeFrame_append {header : FrameHeader} {octets rest : Octets} {frame : Frame}
    (found : header.takeFrame octets = .ok (frame, rest)) (later : Octets) :
    header.takeFrame (octets ++ later) = .ok (frame, rest ++ later) := by
  simp only [takeFrame, List.length_take] at found ⊢
  split at found
  · cases found
  · rename_i long
    cases found
    have inside : header.length.toNat ≤ octets.length := by omega
    rw [if_neg (by rw [List.length_append]; omega), List.take_append_of_le_length inside,
      List.drop_append_of_le_length inside]

/-- Octets that are as long as a header hold one. -/
theorem exists_parse {octets : Octets} (length : octets.length = size) :
    ∃ header, parse octets = .ok header := by
  unfold parse
  split
  · exact ⟨_, rfl⟩
  · rename_i others
    match octets with
    | [length0, length1, length2, type, flags, stream0, stream1, stream2, stream3] =>
      exact absurd rfl (others _ _ _ _ _ _ _ _ _ _)

theorem takeFrame_of_lt {header : FrameHeader} {octets : Octets}
    (short : octets.length < header.length.toNat) :
    header.takeFrame octets = .error .incomplete := by
  simp only [takeFrame, List.length_take]
  rw [if_pos (by omega)]

theorem takeFrame_of_eq {header : FrameHeader} {octets : Octets}
    (whole : octets.length = header.length.toNat) :
    header.takeFrame octets = .ok (header.withPayload octets, []) := by
  simp only [takeFrame, List.length_take]
  rw [if_neg (by omega), ← whole, List.take_length, List.drop_length]

end FrameHeader

namespace Frame

/-! ### One frame -/

theorem length_header (frame : Frame) : frame.header.length = FrameHeader.size := by
  simp [header, Octets.length_ofNat, FrameHeader.size]

/-- A frame that fits its fields is read back, and what follows it is left. -/
theorem parse_encode {frame : Frame} (fits : frame.Fits) (rest : Octets) :
    parse (frame.encode ++ rest) = .ok (frame, rest) := by
  have headerRead := FrameHeader.parse_header fits (frame.payload ++ rest)
  rw [encode, List.append_assoc, parse, headerRead]
  show FrameHeader.takeFrame _ (List.drop FrameHeader.size _) = _
  rw [← length_header frame, List.drop_left, FrameHeader.takeFrame, List.take_left, List.drop_left]
  show (if _ then _ else Except.ok (Frame.mk (FrameType.ofCode frame.type.code) _ _ _, rest)) = _
  rw [if_neg (Nat.lt_irrefl _), fits.type]

/-- Reading a frame looks at its octets only. -/
theorem parse_append {octets rest : Octets} {frame : Frame}
    (found : parse octets = .ok (frame, rest)) (later : Octets) :
    parse (octets ++ later) = .ok (frame, rest ++ later) := by
  obtain ⟨header, headerRead, taken⟩ := exists_ok_of_bind found
  have long := size_le_of_parseHeader headerRead
  rw [parse, FrameHeader.parse_append headerRead]
  show FrameHeader.takeFrame _ (List.drop FrameHeader.size _) = _
  rw [List.drop_append_of_le_length long]
  exact FrameHeader.takeFrame_append taken later

/-- The payload that a header announces is taken from the octets after the header. -/
theorem parse_of_header {octets : Octets} {header : FrameHeader}
    (found : FrameHeader.parse octets = .ok header) (length : octets.length = FrameHeader.size)
    (payload : Octets) : parse (octets ++ payload) = header.takeFrame payload := by
  rw [parse, FrameHeader.parse_append found]
  show header.takeFrame (List.drop FrameHeader.size _) = _
  rw [← length, List.drop_left]

/-- Octets that are shorter than a header hold no frame. -/
theorem parse_of_lt_size {octets : Octets} (short : octets.length < FrameHeader.size) :
    ∃ error, parse octets = .error error := by
  cases found : parse octets with
  | error error => exact ⟨error, rfl⟩
  | ok result =>
    obtain ⟨header, headerRead, _⟩ := exists_ok_of_bind found
    exact absurd (size_le_of_parseHeader headerRead) (Nat.not_le_of_lt short)

/-- The payload of a frame that is read has a length of 24 bits. -/
theorem length_payload_lt_of_parse {octets rest : Octets} {frame : Frame}
    (found : parse octets = .ok (frame, rest)) : frame.payload.length < wordLimit24 := by
  obtain ⟨header, _, taken⟩ := exists_ok_of_bind found
  simp only [FrameHeader.takeFrame] at taken
  split at taken
  · cases taken
  · cases taken
    exact Nat.lt_of_le_of_lt (List.length_take_le _ _) header.length.toNat_lt

/-- Octets that begin a frame and do not end it hold no frame. -/
theorem parse_of_lt_encode {frame : Frame} (fits : frame.Fits) {octets : Octets}
    (beginning : octets <+: frame.encode) (short : octets.length < frame.encode.length) :
    parse octets = .error .incomplete := by
  obtain ⟨missing, whole⟩ := beginning
  have read := parse_encode fits []
  rw [List.append_nil, ← whole] at read
  cases found : parse octets with
  | ok result =>
    -- The frame would be read from fewer octets than it has.
    obtain ⟨other, rest⟩ := result
    have longer := parse_append found missing
    rw [read] at longer
    have nothing : rest ++ missing = [] := (Prod.mk.inj (Except.ok.inj longer)).2.symm
    rw [List.append_eq_nil_iff] at nothing
    rw [← whole, nothing.2, List.append_nil] at short
    exact absurd short (Nat.lt_irrefl _)
  | error error =>
    simp only [parse, FrameHeader.parse] at found
    split at found
    · simp only [bind, Except.bind, FrameHeader.takeFrame] at found
      split at found
      · exact found.symm
      · cases found
    · exact found.symm

/-! ### Sequences of frames -/

theorem parseAllFrom_of_error {octets : Octets} {error : FrameError} (parsed : List Frame)
    (refused : parse octets = .error error) :
    parseAllFrom parsed octets = (parsed.reverse, octets) := by
  rw [parseAllFrom]
  split
  · rfl
  · rename_i found
    rw [refused] at found
    cases found

theorem parseAllFrom_of_ok {octets rest : Octets} {frame : Frame} (parsed : List Frame)
    (found : parse octets = .ok (frame, rest)) :
    parseAllFrom parsed octets = parseAllFrom (frame :: parsed) rest := by
  rw [parseAllFrom]
  split
  · rename_i refused
    rw [found] at refused
    cases refused
  · rename_i same
    rw [found] at same
    cases same
    rfl

/-- The frames read before stand before those that are read. -/
theorem parseAllFrom_eq (parsed : List Frame) (octets : Octets) :
    parseAllFrom parsed octets =
      (parsed.reverse ++ (parseAll octets).1, (parseAll octets).2) := by
  induction length : octets.length using Nat.strongRecOn generalizing parsed octets with
  | ind count inductionHypothesis =>
    subst length
    rw [parseAll]
    cases found : parse octets with
    | error error =>
      rw [parseAllFrom_of_error _ found, parseAllFrom_of_error _ found, List.reverse_nil,
        List.append_nil]
    | ok result =>
      obtain ⟨frame, rest⟩ := result
      have shorter := length_lt_of_parse found
      rw [parseAllFrom_of_ok _ found, parseAllFrom_of_ok _ found,
        inductionHypothesis _ shorter (frame :: parsed) rest rfl,
        inductionHypothesis _ shorter [frame] rest rfl]
      simp

theorem parseAll_of_error {octets : Octets} {error : FrameError}
    (refused : parse octets = .error error) : parseAll octets = ([], octets) :=
  parseAllFrom_of_error [] refused

theorem parseAll_of_ok {octets rest : Octets} {frame : Frame}
    (found : parse octets = .ok (frame, rest)) :
    parseAll octets = (frame :: (parseAll rest).1, (parseAll rest).2) := by
  rw [parseAll, parseAllFrom_of_ok _ found, parseAllFrom_eq]
  rfl

theorem parseAll_nil : parseAll [] = ([], []) :=
  parseAll_of_error rfl

/-- Octets that arrive later add frames and change none. -/
theorem parseAll_append (first second : Octets) :
    parseAll (first ++ second) =
      ((parseAll first).1 ++ (parseAll ((parseAll first).2 ++ second)).1,
        (parseAll ((parseAll first).2 ++ second)).2) := by
  induction length : first.length using Nat.strongRecOn generalizing first with
  | ind count inductionHypothesis =>
    subst length
    cases found : parse first with
    | error error =>
      rw [parseAll_of_error found]
      rfl
    | ok result =>
      obtain ⟨frame, rest⟩ := result
      rw [parseAll_of_ok found, parseAll_of_ok (parse_append found second),
        inductionHypothesis _ (length_lt_of_parse found) rest rfl]
      rfl

/-- Frames that are followed by nothing yet are followed by what arrives later. -/
theorem parseAll_append_of_whole {first : Octets} {frames : List Frame}
    (whole : parseAll first = (frames, [])) (second : Octets) :
    parseAll (first ++ second) = (frames ++ (parseAll second).1, (parseAll second).2) := by
  rw [parseAll_append, whole]
  rfl

/-- The payloads of frames that are read have lengths of 24 bits. -/
theorem length_payload_lt_of_parseAll (octets : Octets) :
    ∀ frame ∈ (parseAll octets).1, frame.payload.length < wordLimit24 := by
  induction length : octets.length using Nat.strongRecOn generalizing octets with
  | ind count inductionHypothesis =>
    subst length
    cases found : parse octets with
    | error error =>
      rw [parseAll_of_error found]
      exact fun _ member => nomatch member
    | ok result =>
      obtain ⟨frame, rest⟩ := result
      rw [parseAll_of_ok found]
      exact List.forall_mem_cons.mpr ⟨length_payload_lt_of_parse found,
        inductionHypothesis _ (length_lt_of_parse found) rest rfl⟩

/-- The octets of frames, one after the other. -/
def encodeAll (frames : List Frame) : Octets :=
  frames.flatMap encode

theorem encodeAll_cons (frame : Frame) (frames : List Frame) :
    encodeAll (frame :: frames) = frame.encode ++ encodeAll frames :=
  List.flatMap_cons

theorem encodeAll_append (first second : List Frame) :
    encodeAll (first ++ second) = encodeAll first ++ encodeAll second :=
  List.flatMap_append

/-- Frames that fit their fields are read back in order. -/
theorem parseAll_encodeAll {frames : List Frame} (fits : ∀ frame ∈ frames, frame.Fits) :
    parseAll (encodeAll frames) = (frames, []) := by
  induction frames with
  | nil => exact parseAll_nil
  | cons frame frames inductionHypothesis =>
    rw [encodeAll_cons, parseAll_of_ok (parse_encode (fits frame List.mem_cons_self) _),
      inductionHypothesis fun other member => fits other (List.mem_cons_of_mem _ member)]

/-- From the beginning of the octets of frames, the first of the frames are read, and all of them
only from all of the octets. -/
theorem parseAll_of_isPrefix {frames : List Frame} (fits : ∀ frame ∈ frames, frame.Fits)
    {octets : Octets} (beginning : octets <+: encodeAll frames) :
    (parseAll octets).1 <+: frames ∧
      ((parseAll octets).1 = frames → octets = encodeAll frames) := by
  induction frames generalizing octets with
  | nil =>
    rw [List.prefix_nil.mp beginning, parseAll_nil]
    exact ⟨List.prefix_rfl, fun _ => rfl⟩
  | cons frame frames inductionHypothesis =>
    have frameFits := fits frame List.mem_cons_self
    rw [encodeAll_cons] at beginning ⊢
    by_cases short : octets.length < frame.encode.length
    · have part := List.prefix_of_prefix_length_le beginning (List.prefix_append _ _)
        (Nat.le_of_lt short)
      rw [parseAll_of_error (parse_of_lt_encode frameFits part short)]
      exact ⟨List.nil_prefix, fun same => nomatch same⟩
    · obtain ⟨rest, rfl⟩ := List.prefix_of_prefix_length_le (List.prefix_append _ _) beginning
        (Nat.le_of_not_lt short)
      rw [List.prefix_append_right_inj] at beginning
      obtain ⟨parsed, whole⟩ := inductionHypothesis
        (fun other member => fits other (List.mem_cons_of_mem _ member)) beginning
      rw [parseAll_of_ok (parse_encode frameFits rest)]
      refine ⟨List.cons_prefix_cons.mpr ⟨rfl, parsed⟩, fun same => ?_⟩
      rw [whole (List.cons.inj same).2]

end Frame

end WebFetch
