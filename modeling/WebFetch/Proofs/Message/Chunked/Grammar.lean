/-
This file states the grammar of the chunked transfer coding and proves that decoding follows it.
The grammar says what stands where without cutting anything: size lines, chunks, trailer lines and
the empty line at the end. A coding is never the beginning of another one, so octets begin with at
most one, and a part of a coding is not taken for a whole one.
-/

import WebFetch.Proofs.Message.Limits
import WebFetch.Proofs.Text.Utf8.Validity

namespace WebFetch.Chunked

open Message (lineEnd)

/-! ### The grammar -/

/-- Whether octets are one line: no line end stands inside them. -/
def IsLine (line : Octets) : Prop := ¬ lineEnd <:+: line

instance (line : Octets) : Decidable (IsLine line) :=
  inferInstanceAs (Decidable (¬ lineEnd <:+: line))

/-- Whether a line denotes the size of a chunk: it is the UTF-8 of a text, and what precedes the
first semicolon of this, without blanks around it, is a hexadecimal number of 64 bits. -/
def IsSizeLine (line : Octets) (size : Nat) : Prop :=
  IsLine line ∧ ∃ text, line = Utf8.encodeAll text ∧
    Numeral.parse 16 wordLimit (trim (text.takeWhile (· != ';'))) = .ok size

/-- Whether octets are trailer lines that are not empty, and the empty line after them. -/
inductive Trailer : Octets → Prop
  | ended : Trailer lineEnd
  | field {line later : Octets} (isLine : IsLine line) (some : line ≠ []) (rest : Trailer later) :
    Trailer (line ++ (lineEnd ++ later))

/-- Whether octets are the coding of a body: chunks that are not empty, each with a line of its size
before it and a line end after it, then a line of the size zero, and a trailer. -/
inductive Coding : (octets body : Octets) → Prop
  | last {line trailer : Octets} (size : IsSizeLine line 0) (ends : Trailer trailer) :
    Coding (line ++ (lineEnd ++ trailer)) []
  | chunk {line chunk later body : Octets} (size : IsSizeLine line chunk.length)
    (some : chunk ≠ []) (rest : Coding later body) :
    Coding (line ++ (lineEnd ++ (chunk ++ (lineEnd ++ later)))) (chunk ++ body)

/-! ### Lines -/

theorem lineEnd_ne_nil : lineEnd ≠ [] := List.cons_ne_nil _ _

theorem IsLine.cut {line : Octets} (isLine : IsLine line) (after : Octets) :
    cut lineEnd (line ++ (lineEnd ++ after)) = some (line, after) :=
  cut_pair_of_not_infix (by decide) isLine after

theorem isLine_of_cut {octets line after : Octets}
    (found : WebFetch.cut lineEnd octets = some (line, after)) :
    IsLine line ∧ octets = line ++ (lineEnd ++ after) := by
  refine ⟨not_infix_of_cut lineEnd_ne_nil found, ?_⟩
  rw [eq_of_cut lineEnd_ne_nil found, List.append_assoc]

theorem isSizeLine_iff {line : Octets} {size : Nat} :
    IsSizeLine line size ↔ IsLine line ∧ size? line = some size := by
  refine and_congr_right fun _ => ?_
  rw [size?_eq_some_iff]
  refine exists_congr fun text => ?_
  rw [Utf8.decode?_eq_some_iff, fst_cutOptional_singleton]

/-! ### The trailer -/

/-- A trailer ends, whatever follows it. -/
theorem Trailer.ends {trailer : Octets} (isTrailer : Trailer trailer) (rest : Octets) :
    trailerEnds (trailer ++ rest) = true := by
  induction isTrailer with
  | ended => rw [trailerEnds_of_cut (cut_mark_append lineEnd_ne_nil rest)]; rfl
  | field isLine some _ inductionHypothesis =>
    rw [List.append_assoc, List.append_assoc, trailerEnds_of_cut (isLine.cut _),
      inductionHypothesis, Bool.or_true]

/-- Octets in which a trailer ends begin with one. -/
theorem exists_trailer_of_ends {octets : Octets} (ended : trailerEnds octets = true) :
    ∃ trailer rest, octets = trailer ++ rest ∧ Trailer trailer := by
  fun_induction trailerEnds octets with
  | case1 octets found => cases ended
  | case2 octets after found =>
    obtain ⟨_, rfl⟩ := isLine_of_cut found
    exact ⟨lineEnd, after, rfl, .ended⟩
  | case3 octets head rest after found shorter inductionHypothesis =>
    obtain ⟨isLine, rfl⟩ := isLine_of_cut found
    obtain ⟨trailer, left, rfl, isTrailer⟩ := inductionHypothesis ended
    refine ⟨head :: rest ++ (lineEnd ++ trailer), left, ?_,
      .field isLine (List.cons_ne_nil _ _) isTrailer⟩
    rw [List.append_assoc, List.append_assoc]

/-! ### The coding -/

/-- The coding of a body is decoded to the body, whatever follows it, if there is room. -/
theorem decodeFrom_of_coding {coding body : Octets} (codes : Coding coding body)
    {room offset : Nat} {pieces : List Octets} (rest : Octets) (fits : body.length ≤ room)
    (addressable : offset + coding.length < wordLimit) :
    decodeFrom room offset pieces (coding ++ rest) =
      .ok (some (pieces.reverse.flatten ++ body)) := by
  induction codes generalizing room offset pieces with
  | last size ends =>
    obtain ⟨isLine, sized⟩ := isSizeLine_iff.mp size
    rw [List.append_assoc, List.append_assoc, decodeFrom_of_cut _ _ _ (isLine.cut _), decodeLine,
      sized, List.append_nil]
    exact congrArg Except.ok (if_pos (ends.ends rest))
  | @chunk line chunk later body size some codes inductionHypothesis =>
    obtain ⟨isLine, sized⟩ := isSizeLine_iff.mp size
    have positive : chunk.length ≠ 0 := fun empty => some (List.length_eq_zero_iff.mp empty)
    simp only [List.length_append] at fits addressable
    simp only [List.append_assoc]
    rw [decodeFrom_of_cut _ _ _ (isLine.cut _), decodeLine_of_size _ _ _ _ sized positive,
      decodeChunk_of_whole _ (by omega) (by omega), inductionHypothesis (by omega) (by omega),
      List.reverse_cons, List.flatten_append, List.flatten_singleton, List.append_assoc]

/-- Octets that begin with a coding by what is cut from them begin with one of the grammar. -/
theorem Codes.exists_coding {octets body : Octets} (codes : Codes octets body) :
    ∃ coding rest, octets = coding ++ rest ∧ Coding coding body := by
  induction codes with
  | last found size trailer =>
    obtain ⟨isLine, rfl⟩ := isLine_of_cut found
    obtain ⟨trailer, rest, rfl, isTrailer⟩ := exists_trailer_of_ends trailer
    refine ⟨_, rest, ?_, .last (isSizeLine_iff.mpr ⟨isLine, size⟩) isTrailer⟩
    simp only [List.append_assoc]
  | chunk found size some _ inductionHypothesis =>
    obtain ⟨isLine, rfl⟩ := isLine_of_cut found
    obtain ⟨coding, rest, rfl, codes⟩ := inductionHypothesis
    refine ⟨_, rest, ?_, .chunk (isSizeLine_iff.mpr ⟨isLine, size⟩) some codes⟩
    simp only [List.append_assoc]

/-- Decoding gives a body exactly if the octets begin with its coding and it is within the limit. -/
theorem decode_eq_some_iff {limit : Nat} {octets body : Octets}
    (addressable : octets.length < wordLimit) :
    decode limit octets = .ok (some body) ↔
      (∃ coding rest, octets = coding ++ rest ∧ Coding coding body) ∧ body.length ≤ limit := by
  constructor
  · intro found
    obtain ⟨inLimit, _⟩ := length_le_of_decodeFrom found
    exact ⟨(codes_of_decode found).exists_coding, by simpa using inLimit⟩
  · rintro ⟨⟨coding, rest, rfl, codes⟩, fits⟩
    rw [List.length_append] at addressable
    exact decodeFrom_of_coding codes rest fits (by omega)

/-! ### Parts of a coding -/

/-- What the line that ends first in the coding of a body says, and what stands behind it. -/
theorem Coding.exists_line {octets body : Octets} (codes : Coding octets body) :
    ∃ line after, cut lineEnd octets = some (line, after) ∧
      (size? line = some 0 ∧ Trailer after ∧ body = [] ∨
        ∃ chunk later rest, size? line = some chunk.length ∧ chunk ≠ [] ∧
          after = chunk ++ (lineEnd ++ later) ∧ body = chunk ++ rest ∧ Coding later rest) := by
  cases codes with
  | last size ends =>
    obtain ⟨isLine, sized⟩ := isSizeLine_iff.mp size
    exact ⟨_, _, isLine.cut _, Or.inl ⟨sized, ends, rfl⟩⟩
  | chunk size some codes =>
    obtain ⟨isLine, sized⟩ := isSizeLine_iff.mp size
    exact ⟨_, _, isLine.cut _, Or.inr ⟨_, _, _, sized, some, rfl, rfl, codes⟩⟩

theorem Trailer.exists_line {octets : Octets} (isTrailer : Trailer octets) :
    ∃ line after, cut lineEnd octets = some (line, after) ∧
      (line = [] ∧ after = [] ∨ line ≠ [] ∧ Trailer after) := by
  cases isTrailer with
  | ended => exact ⟨[], [], rfl, Or.inl ⟨rfl, rfl⟩⟩
  | field isLine some rest => exact ⟨_, _, isLine.cut _, Or.inr ⟨some, rest⟩⟩

/-- Nothing follows a trailer in a trailer. -/
theorem Trailer.eq_nil_of_append {trailer rest : Octets} (isTrailer : Trailer trailer)
    (whole : Trailer (trailer ++ rest)) : rest = [] := by
  induction isTrailer with
  | ended =>
    obtain ⟨line, after, found, parts⟩ := whole.exists_line
    rw [cut_mark_append lineEnd_ne_nil] at found
    cases found
    rcases parts with ⟨_, nothing⟩ | ⟨some, _⟩
    · exact nothing
    · exact absurd rfl some
  | field isLine some _ inductionHypothesis =>
    obtain ⟨line, after, found, parts⟩ := whole.exists_line
    rw [List.append_assoc, List.append_assoc, isLine.cut] at found
    cases found
    rcases parts with ⟨nothing, _⟩ | ⟨_, later⟩
    · exact absurd nothing some
    · exact inductionHypothesis later

/-- Nothing follows a coding in a coding. -/
theorem Coding.eq_nil_of_append {coding rest body other : Octets} (codes : Coding coding body)
    (whole : Coding (coding ++ rest) other) : rest = [] := by
  induction codes generalizing other with
  | last size ends =>
    obtain ⟨isLine, sized⟩ := isSizeLine_iff.mp size
    obtain ⟨line, after, found, parts⟩ := whole.exists_line
    rw [List.append_assoc, List.append_assoc, isLine.cut] at found
    cases found
    rcases parts with ⟨_, trailer, _⟩ | ⟨chunk, _, _, chunkSize, some, _⟩
    · exact ends.eq_nil_of_append trailer
    · have empty := Option.some.inj (sized.symm.trans chunkSize)
      exact absurd (List.length_eq_zero_iff.mp empty.symm) some
  | chunk size some _ inductionHypothesis =>
    obtain ⟨isLine, sized⟩ := isSizeLine_iff.mp size
    obtain ⟨line, after, found, parts⟩ := whole.exists_line
    simp only [List.append_assoc] at found
    rw [isLine.cut] at found
    cases found
    rcases parts with ⟨zero, _⟩ | ⟨chunk, later, _, chunkSize, _, same, _, laterCodes⟩
    · have empty := Option.some.inj (sized.symm.trans zero)
      exact absurd (List.length_eq_zero_iff.mp empty) some
    · have lengths := Option.some.inj (sized.symm.trans chunkSize)
      obtain ⟨_, behind⟩ := List.append_inj same lengths
      rw [List.append_cancel_left_eq] at behind
      exact inductionHypothesis (behind ▸ laterCodes)

/-- A part of a coding is not decoded before the rest has arrived. -/
theorem decode_part_of_coding {limit : Nat} {octets body part : Octets}
    (addressable : octets.length < wordLimit) (codes : Coding octets body)
    (fits : body.length ≤ limit) (before : part <+: octets) (short : part ≠ octets) :
    decode limit part = .ok none := by
  obtain ⟨rest, rfl⟩ := before
  refine Classical.byContradiction fun settled => ?_
  have whole : decode limit (part ++ rest) = .ok (some body) :=
    (decode_eq_some_iff addressable).mpr ⟨⟨_, [], (List.append_nil _).symm, codes⟩, fits⟩
  have found := (decode_append settled rest).symm.trans whole
  -- The part would begin with a coding, and so would the whole, with more behind it.
  obtain ⟨coding, left, rfl, earlier⟩ := (codes_of_decode found).exists_coding
  rw [List.append_assoc] at codes
  have nothing := earlier.eq_nil_of_append codes
  exact short (by rw [(List.append_eq_nil_iff.mp nothing).2, List.append_nil])

end WebFetch.Chunked
