/-
This file is about the chunked transfer coding as it arrives. One turn of decoding takes a size line
and what it announces; a body that was decoded and an error that was found stay what they are when
more octets arrive. Chunks that were written are decoded to their octets, and nothing is decoded
before the last octet has arrived.
-/

import WebFetch.Message.Chunked
import WebFetch.Proofs.Cut
import WebFetch.Proofs.Text.Numeral
import WebFetch.Proofs.Text.Utf8

namespace WebFetch.Chunked

open Message (lineEnd)

/-! ### Sizes -/

/-- A size is the number that is read from the text of a line. -/
theorem size?_eq_some_iff {line : Octets} {size : Nat} :
    size? line = some size ↔ ∃ text, Utf8.decode? line = some text ∧
      Numeral.parse 16 wordLimit (trim (cutOptional [';'] text).1) = .ok size := by
  rw [size?, Option.bind_eq_bind, Option.bind_eq_some_iff]
  refine exists_congr fun text => and_congr_right fun _ => ?_
  cases Numeral.parse 16 wordLimit (trim (cutOptional [';'] text).1) with
  | ok number => exact ⟨fun same => congrArg Except.ok (Option.some.inj same), fun same =>
      congrArg some (Except.ok.inj same)⟩
  | error reason =>
    constructor
    · intro read
      cases read
    · intro read
      cases read

/-! ### One turn -/

/-- What a chunk of a size and the octets after it decode to. The octets behind the chunk and its
line end begin at `next`. -/
def decodeChunk (room next : Nat) (pieces : List Octets) (size : Nat) (octets : Octets) :
    Except MessageError (Option Octets) :=
  if room < size then .error .tooLarge
  else if wordLimit ≤ next then .error .invalidChunk
  else
    match octets.drop size with
    | carriage :: feed :: later =>
      if [carriage, feed] = lineEnd then
        decodeFrom (room - size) next (octets.take size :: pieces) later
      else .error .invalidChunk
    | _ => .ok none

/-- What a size line and the octets after it decode to. -/
def decodeLine (room offset : Nat) (pieces : List Octets) (line after : Octets) :
    Except MessageError (Option Octets) :=
  match size? line with
  | none => .error .invalidChunk
  | some 0 => .ok (if trailerEnds after then some pieces.reverse.flatten else none)
  | some (size + 1) =>
    let next := offset + line.length + lineEnd.length + (size + 1) + lineEnd.length
    decodeChunk room next pieces (size + 1) after

theorem decodeFrom_of_uncut {octets : Octets} (room offset : Nat) (pieces : List Octets)
    (found : cut lineEnd octets = none) : decodeFrom room offset pieces octets = .ok none := by
  rw [decodeFrom]
  split
  · rfl
  · rename_i other
    rw [found] at other
    cases other

theorem decodeFrom_of_cut {octets line after : Octets} (room offset : Nat)
    (pieces : List Octets) (found : cut lineEnd octets = some (line, after)) :
    decodeFrom room offset pieces octets = decodeLine room offset pieces line after := by
  rw [decodeFrom]
  split
  · rename_i other
    rw [found] at other
    cases other
  · rename_i other
    rw [found] at other
    cases other
    cases sized : size? line with
    | none => simp only [decodeLine, sized]
    | some size =>
      cases size with
      | zero => simp only [decodeLine, sized]
      | succ size =>
        simp only [decodeLine, sized, decodeChunk]
        split
        · rfl
        · split
          · rfl
          · split <;> rename_i remains
            · simp only [remains]
            · split
              · rename_i some
                exact absurd some (remains _ _ _)
              · rfl

theorem trailerEnds_of_uncut {octets : Octets} (found : cut lineEnd octets = none) :
    trailerEnds octets = false := by
  rw [trailerEnds]
  split
  · rfl
  all_goals
    rename_i other
    rw [found] at other
    cases other

theorem trailerEnds_of_cut {octets line after : Octets}
    (found : cut lineEnd octets = some (line, after)) :
    trailerEnds octets = (line.isEmpty || trailerEnds after) := by
  rw [trailerEnds]
  split
  all_goals
    rename_i other
    rw [found] at other
    cases other
  · rfl
  · rfl

/-! ### More octets -/

/-- Trailer lines that have ended stay so. -/
theorem trailerEnds_append {octets : Octets} (ended : trailerEnds octets = true)
    (later : Octets) : trailerEnds (octets ++ later) = true := by
  fun_induction trailerEnds octets with
  | case1 octets found => cases ended
  | case2 octets after found => rw [trailerEnds_of_cut (cut_append found later)]; rfl
  | case3 octets head rest after found shorter inductionHypothesis =>
    rw [trailerEnds_of_cut (cut_append found later)]
    exact inductionHypothesis ended

/-- A chunk is decoded in the same way when more octets follow. -/
theorem decodeChunk_append {room next size : Nat} {pieces : List Octets} {octets : Octets}
    (settled : decodeChunk room next pieces size octets ≠ .ok none) (later : Octets)
    (further : ∀ rest gathered, rest.length < octets.length →
      decodeFrom (room - size) next gathered rest ≠ .ok none →
      decodeFrom (room - size) next gathered (rest ++ later) =
        decodeFrom (room - size) next gathered rest) :
    decodeChunk room next pieces size (octets ++ later) =
      decodeChunk room next pieces size octets := by
  unfold decodeChunk at settled ⊢
  split
  · rfl
  · rename_i fits
    rw [if_neg fits] at settled
    split
    · rfl
    · rename_i small
      rw [if_neg small] at settled
      match remains : octets.drop size with
      | [] => simp [remains] at settled
      | [_] => simp [remains] at settled
      | carriage :: feed :: rest =>
        have long : size + rest.length + 2 = octets.length := by
          have dropped := congrArg List.length remains
          simp only [List.length_drop, List.length_cons] at dropped
          omega
        have remainsLater : (octets ++ later).drop size = carriage :: feed :: (rest ++ later) := by
          rw [List.drop_append_of_le_length (by omega), remains]
          rfl
        rw [remains] at settled
        rw [remainsLater, List.take_append_of_le_length (by omega)]
        dsimp only at settled ⊢
        split
        · rename_i ends
          rw [if_pos ends] at settled
          exact further rest _ (by omega) settled
        · rfl

/-- A body that was decoded and an error that was found stay what they are. -/
theorem decodeFrom_append {room offset : Nat} {pieces : List Octets} {octets : Octets}
    (settled : decodeFrom room offset pieces octets ≠ .ok none) (later : Octets) :
    decodeFrom room offset pieces (octets ++ later) = decodeFrom room offset pieces octets := by
  generalize counted : octets.length = count
  induction count using Nat.strongRecOn generalizing room offset pieces octets with
  | ind count inductionHypothesis =>
    subst counted
    match found : cut lineEnd octets with
    | none => exact absurd (decodeFrom_of_uncut room offset pieces found) settled
    | some (line, after) =>
      have shorter : after.length < octets.length := length_lt_of_cutFrom found
      rw [decodeFrom_of_cut room offset pieces found] at settled ⊢
      rw [decodeFrom_of_cut room offset pieces (cut_append found later)]
      unfold decodeLine at settled ⊢
      match sized : size? line with
      | none => rfl
      | some 0 =>
        rw [sized] at settled
        dsimp only at settled ⊢
        by_cases ended : trailerEnds after = true
        · rw [if_pos ended, if_pos (trailerEnds_append ended later)]
        · rw [if_neg ended] at settled
          exact absurd rfl settled
      | some (size + 1) =>
        rw [sized] at settled
        exact decodeChunk_append settled later fun rest _ less settledLater =>
          inductionHypothesis rest.length (by omega) settledLater rfl

theorem decode_append {limit : Nat} {octets : Octets} (settled : decode limit octets ≠ .ok none)
    (later : Octets) : decode limit (octets ++ later) = decode limit octets :=
  decodeFrom_append settled later

/-! ### Decoded bodies -/

/-- A chunk behind which more octets stand has arrived. -/
theorem parts_of_drop {octets later : Octets} {size : Nat} {carriage feed : UInt8}
    (remains : octets.drop size = carriage :: feed :: later) :
    octets = octets.take size ++ carriage :: feed :: later ∧ (octets.take size).length = size := by
  have dropped := congrArg List.length remains
  rw [List.length_drop, List.length_cons, List.length_cons] at dropped
  constructor
  · rw [← remains, List.take_append_drop]
  · rw [List.length_take]
    omega

/-- A chunk after which a body is decoded fits the room for it and has arrived with its line end. -/
theorem exists_chunk_of_decodeChunk {room next size : Nat} {pieces : List Octets}
    {octets body : Octets} (found : decodeChunk room next pieces size octets = .ok (some body)) :
    ∃ chunk later, octets = chunk ++ (lineEnd ++ later) ∧ chunk.length = size ∧ size ≤ room ∧
      decodeFrom (room - size) next (chunk :: pieces) later = .ok (some body) := by
  unfold decodeChunk at found
  split at found
  · cases found
  · rename_i fits
    split at found
    · cases found
    · split at found
      · rename_i carriage feed later remains
        split at found
        · rename_i ends
          obtain ⟨parts, length⟩ := parts_of_drop remains
          refine ⟨octets.take size, later, ?_, length, Nat.le_of_not_lt fits, found⟩
          rw [← ends]
          exact parts
        · cases found
      · cases found

/-- Whether octets begin with the coding of a body: chunks that are not empty, each with its size in
the line before it and a line end after it, then a line with the size zero, and trailer lines up to
an empty one. -/
inductive Codes : (octets body : Octets) → Prop
  | last {octets line after : Octets} (found : cut lineEnd octets = some (line, after))
    (size : size? line = some 0) (trailer : trailerEnds after = true) : Codes octets []
  | chunk {octets line chunk later body : Octets}
    (found : cut lineEnd octets = some (line, chunk ++ (lineEnd ++ later)))
    (size : size? line = some chunk.length) (some : chunk ≠ []) (rest : Codes later body) :
    Codes octets (chunk ++ body)

/-- A body that is decoded is the one that is coded, behind the pieces decoded before. -/
theorem exists_codes_of_decodeFrom {room offset : Nat} {pieces : List Octets}
    {octets body : Octets} (found : decodeFrom room offset pieces octets = .ok (some body)) :
    ∃ coded, Codes octets coded ∧ body = pieces.reverse.flatten ++ coded := by
  generalize counted : octets.length = count
  induction count using Nat.strongRecOn generalizing room offset pieces octets with
  | ind count inductionHypothesis =>
    subst counted
    match cutAt : cut lineEnd octets with
    | none =>
      rw [decodeFrom_of_uncut room offset pieces cutAt] at found
      cases found
    | some (line, after) =>
      have shorter : after.length < octets.length := length_lt_of_cutFrom cutAt
      rw [decodeFrom_of_cut room offset pieces cutAt, decodeLine] at found
      match sized : size? line with
      | none =>
        rw [sized] at found
        cases found
      | some 0 =>
        rw [sized] at found
        dsimp only at found
        split at found
        · rename_i ended
          cases found
          exact ⟨[], .last cutAt sized ended, (List.append_nil _).symm⟩
        · cases found
      | some (size + 1) =>
        rw [sized] at found
        obtain ⟨chunk, later, rfl, length, _, found⟩ := exists_chunk_of_decodeChunk found
        have some : chunk ≠ [] := List.ne_nil_of_length_eq_add_one length
        have less : later.length < octets.length := by
          rw [List.length_append, List.length_append] at shorter
          omega
        obtain ⟨coded, codes, rfl⟩ := inductionHypothesis later.length less found rfl
        refine ⟨chunk ++ coded, .chunk cutAt (length ▸ sized) some codes, ?_⟩
        rw [List.reverse_cons, List.flatten_append, List.flatten_singleton, List.append_assoc]

/-- A body that is decoded is the one that is coded. -/
theorem codes_of_decode {limit : Nat} {octets body : Octets}
    (found : decode limit octets = .ok (some body)) : Codes octets body := by
  obtain ⟨coded, codes, rfl⟩ := exists_codes_of_decodeFrom found
  exact codes

/-! ### Written chunks -/

/-- The line of a size, without its end. -/
def sizeLine (size : Nat) : Octets := Utf8.encodeAll (Nat.toDigits 16 size)

/-- The octets of chunks: each with its size before it, and then a last one of size zero and an
empty trailer. -/
def encode : List Octets → Octets
  | [] => sizeLine 0 ++ (lineEnd ++ lineEnd)
  | chunk :: later => sizeLine chunk.length ++ (lineEnd ++ (chunk ++ (lineEnd ++ encode later)))

theorem sizeLine_unbroken (size : Nat) : (0x0d : UInt8) ∉ sizeLine size :=
  Utf8.not_mem_encodeAll (by decide)
    (Numeral.not_mem_toDigits .sixteen (by decide) size)

theorem size?_sizeLine {size : Nat} (small : size < wordLimit) :
    size? (sizeLine size) = some size := by
  have noExtension : ';' ∉ Nat.toDigits 16 size :=
    Numeral.not_mem_toDigits .sixteen (by decide) size
  have number : Numeral.parse 16 wordLimit (Nat.toDigits 16 size) = .ok size :=
    Numeral.parse_toDigits .sixteen small
  rw [size?, sizeLine, Utf8.decode?_encodeAll]
  simp only [Option.bind_eq_bind, Option.bind_some]
  rw [cutOptional_of_not_mem noExtension, Numeral.trim_toDigits .sixteen, number]
  rfl

theorem cut_sizeLine (size : Nat) (after : Octets) :
    cut lineEnd (sizeLine size ++ (lineEnd ++ after)) = some (sizeLine size, after) :=
  cut_of_not_mem rfl (sizeLine_unbroken size) after

/-- A chunk that has arrived is taken, and decoding goes on after its line end. -/
theorem decodeChunk_of_whole {room next : Nat} {pieces : List Octets} {chunk : Octets}
    (later : Octets) (fits : chunk.length ≤ room) (addressable : next < wordLimit) :
    decodeChunk room next pieces chunk.length (chunk ++ (lineEnd ++ later)) =
      decodeFrom (room - chunk.length) next (chunk :: pieces) later := by
  rw [decodeChunk, if_neg (Nat.not_lt.mpr fits), if_neg (Nat.not_le.mpr addressable),
    List.drop_left, List.take_left]
  rfl

/-- A chunk is waited for until its line end has arrived. -/
theorem decodeChunk_of_short {room next size : Nat} {pieces : List Octets} {octets : Octets}
    (short : octets.length < size + lineEnd.length) (fits : size ≤ room)
    (addressable : next < wordLimit) :
    decodeChunk room next pieces size octets = .ok none := by
  rw [decodeChunk, if_neg (Nat.not_lt.mpr fits), if_neg (Nat.not_le.mpr addressable)]
  split
  · rename_i carriage feed later remains
    have dropped := congrArg List.length remains
    have two : lineEnd.length = 2 := rfl
    simp only [List.length_drop, List.length_cons] at dropped
    omega
  · rfl

theorem decodeLine_of_size {line : Octets} {size : Nat} (room offset : Nat)
    (pieces : List Octets) (after : Octets) (sized : size? line = some size) (some : size ≠ 0) :
    decodeLine room offset pieces line after =
      decodeChunk room (offset + line.length + lineEnd.length + size + lineEnd.length) pieces size
        after := by
  obtain ⟨less, rfl⟩ := Nat.exists_eq_succ_of_ne_zero some
  rw [decodeLine, sized]

/-- The empty trailer has ended once its line end has arrived. -/
theorem trailerEnds_part {part rest : Octets} (parts : part ++ rest = lineEnd) :
    trailerEnds part = true ↔ rest = [] := by
  have whole : cut lineEnd (part ++ rest) = some ([], []) := by
    rw [parts]
    rfl
  rcases cut_of_append whole with ⟨uncut, more⟩ | ⟨left, found, nothing⟩
  · rw [trailerEnds_of_uncut uncut]
    exact iff_of_false nofun more
  · rw [trailerEnds_of_cut found]
    exact iff_of_true rfl (List.append_eq_nil_iff.mp nothing).2

/-- Written chunks are decoded once they have arrived as a whole, and not before. -/
theorem decodeFrom_part {room offset : Nat} {pieces chunks : List Octets} {part rest : Octets}
    (parts : part ++ rest = encode chunks) (proper : ∀ chunk ∈ chunks, chunk ≠ [])
    (fits : chunks.flatten.length ≤ room)
    (addressable : offset + (encode chunks).length < wordLimit) :
    decodeFrom room offset pieces part =
      .ok (if rest = [] then some (pieces.reverse.flatten ++ chunks.flatten) else none) := by
  induction chunks generalizing room offset pieces part with
  | nil =>
    have foundWhole := cut_sizeLine 0 lineEnd
    rw [encode] at parts
    rw [← parts] at foundWhole
    rcases cut_of_append foundWhole with ⟨uncut, more⟩ | ⟨left, found, leftParts⟩
    · rw [decodeFrom_of_uncut room offset pieces uncut, if_neg more]
    · rw [decodeFrom_of_cut room offset pieces found, decodeLine, size?_sizeLine (by decide)]
      simp only [trailerEnds_part leftParts, List.flatten_nil, List.append_nil]
  | cons chunk later inductionHypothesis =>
    have foundWhole := cut_sizeLine chunk.length (chunk ++ (lineEnd ++ encode later))
    rw [encode] at parts addressable
    rw [← parts] at foundWhole
    simp only [List.length_append] at addressable
    rw [List.flatten_cons, List.length_append] at fits
    -- The part ends inside the size line, inside the chunk and its line end, or later.
    rcases cut_of_append foundWhole with ⟨uncut, more⟩ | ⟨left, found, leftParts⟩
    · rw [decodeFrom_of_uncut room offset pieces uncut, if_neg more]
    · have some : chunk.length ≠ 0 := fun nothing =>
        proper chunk List.mem_cons_self (List.length_eq_zero_iff.mp nothing)
      rw [decodeFrom_of_cut room offset pieces found,
        decodeLine_of_size room offset pieces left (size?_sizeLine (by omega)) some]
      by_cases short : left.length < chunk.length + lineEnd.length
      · have more : rest ≠ [] := by
          rintro rfl
          have lengths := congrArg List.length leftParts
          simp only [List.length_append, List.length_nil] at lengths
          omega
        rw [decodeChunk_of_short short (by omega) (by omega), if_neg more]
      · rw [← List.append_assoc] at leftParts
        have arrived : chunk ++ lineEnd <+: left ++ rest := leftParts ▸ List.prefix_append _ _
        obtain ⟨further, rfl⟩ := List.prefix_of_prefix_length_le arrived
          (List.prefix_append left rest) (by rw [List.length_append]; omega)
        rw [List.append_assoc, List.append_cancel_left_eq] at leftParts
        rw [List.append_assoc, decodeChunk_of_whole further (by omega) (by omega),
          inductionHypothesis leftParts (fun chunk member => proper chunk
            (List.mem_cons_of_mem _ member)) (by omega) (by omega)]
        simp

end WebFetch.Chunked
