/-
This file takes the decoding of the chunked coding apart into the turns of its two loops, one over
chunks and one over trailer lines. A turn keeps what decoding gives and uses up octets, so there are
no more turns than octets before the last one. With the grammar of the coding, this says all of
decoding.
-/

import Mathlib.Logic.Function.Iterate
import WebFetch.Proofs.Message.Chunked.Grammar

namespace WebFetch.Chunked

open Message (lineEnd)

/-! ### Turns -/

/-- Where decoding stands: before a size line, before a trailer line, or at its end. -/
inductive Place where
  /-- Before a size line, with the room that is left, the offset, and the pieces decoded before. -/
  | sizeLine (room offset : Nat) (pieces : List Octets) (octets : Octets)
  /-- Before a trailer line, with the body. -/
  | trailerLine (body octets : Octets)
  | done (result : Except MessageError (Option Octets))

namespace Place

/-- Takes a chunk of a size and its line end, behind which the octets begin at `next`. -/
def takeChunk (room next : Nat) (pieces : List Octets) (size : Nat) (octets : Octets) : Place :=
  if room < size then done (.error .tooLarge)
  else if wordLimit ≤ next then done (.error .invalidChunk)
  else
    match octets.drop size with
    | carriage :: feed :: later =>
      if [carriage, feed] = lineEnd then
        sizeLine (room - size) next (octets.take size :: pieces) later
      else done (.error .invalidChunk)
    | _ => done (.ok none)

/-- One turn of the loop over chunks, or of the loop over trailer lines. -/
def turn : Place → Place
  | sizeLine room offset pieces octets =>
    match cut lineEnd octets with
    | none => done (.ok none)
    | some (line, after) =>
      match size? line with
      | none => done (.error .invalidChunk)
      | some 0 => trailerLine pieces.reverse.flatten after
      | some (size + 1) =>
        let next := offset + line.length + lineEnd.length + (size + 1) + lineEnd.length
        takeChunk room next pieces (size + 1) after
  | trailerLine body octets =>
    match cut lineEnd octets with
    | none => done (.ok none)
    | some (line, after) => if line.isEmpty then done (.ok (some body)) else trailerLine body after
  | done result => done result

/-- What decoding gives from a place on. -/
def result : Place → Except MessageError (Option Octets)
  | sizeLine room offset pieces octets => decodeFrom room offset pieces octets
  | trailerLine body octets => .ok (if trailerEnds octets then some body else none)
  | done result => result

/-- How many turns there can be at most before decoding is done. -/
def turnsLeft : Place → Nat
  | sizeLine _ _ _ octets => octets.length + 1
  | trailerLine _ octets => octets.length + 1
  | done _ => 0

theorem eq_done_of_turnsLeft {place : Place} (none : place.turnsLeft = 0) :
    place = done place.result := by
  cases place with
  | sizeLine | trailerLine => cases none
  | done result => rfl

/-- A chunk that is taken is the one that is decoded. -/
theorem result_takeChunk (room next : Nat) (pieces : List Octets) (size : Nat) (octets : Octets) :
    (takeChunk room next pieces size octets).result = decodeChunk room next pieces size octets := by
  unfold takeChunk decodeChunk
  split
  · rfl
  · split
    · rfl
    · match octets.drop size with
      | [] | [_] => rfl
      | carriage :: feed :: later =>
        dsimp only
        split <;> rfl

/-- A turn keeps what decoding gives. -/
theorem result_turn (place : Place) : place.turn.result = place.result := by
  cases place with
  | sizeLine room offset pieces octets =>
    match found : cut lineEnd octets with
    | none => rw [turn, found, result, result, decodeFrom_of_uncut room offset pieces found]
    | some (line, after) =>
      show _ = decodeFrom room offset pieces octets
      rw [turn, found, decodeFrom_of_cut room offset pieces found, decodeLine]
      dsimp only
      cases size? line with
      | none => rfl
      | some size =>
        cases size with
        | zero => rfl
        | succ size => exact result_takeChunk _ _ _ _ _
  | trailerLine body octets =>
    match found : cut lineEnd octets with
    | none => rw [turn, found, result, result, trailerEnds_of_uncut found]; rfl
    | some (line, after) =>
      show _ = Except.ok (if trailerEnds octets = true then _ else _)
      rw [turn, found, trailerEnds_of_cut found]
      cases line <;> rfl
  | done result => rfl

theorem turnsLeft_takeChunk_le (room next : Nat) (pieces : List Octets) (size : Nat)
    (octets : Octets) : (takeChunk room next pieces size octets).turnsLeft ≤ octets.length := by
  unfold takeChunk
  split
  · exact Nat.zero_le _
  · split
    · exact Nat.zero_le _
    · match remains : octets.drop size with
      | [] | [_] => exact Nat.zero_le _
      | carriage :: feed :: later =>
        have dropped := congrArg List.length remains
        rw [List.length_drop, List.length_cons, List.length_cons] at dropped
        dsimp only
        split
        · show later.length + 1 ≤ octets.length
          omega
        · exact Nat.zero_le _

/-- A turn uses up octets or ends decoding. -/
theorem turnsLeft_turn_le (place : Place) : place.turn.turnsLeft ≤ place.turnsLeft - 1 := by
  cases place with
  | sizeLine room offset pieces octets =>
    match found : cut lineEnd octets with
    | none => rw [turn, found]; exact Nat.zero_le _
    | some (line, after) =>
      have shorter : after.length < octets.length := length_lt_of_cutFrom found
      rw [turn, found]
      dsimp only
      match size? line with
      | none => exact Nat.zero_le _
      | some 0 => exact shorter
      | some (size + 1) =>
        exact Nat.le_trans (turnsLeft_takeChunk_le _ _ _ _ _) (Nat.le_of_lt shorter)
  | trailerLine body octets =>
    match found : cut lineEnd octets with
    | none => rw [turn, found]; exact Nat.zero_le _
    | some (line, after) =>
      have shorter : after.length < octets.length := length_lt_of_cutFrom found
      rw [turn, found]
      dsimp only
      split
      · exact Nat.zero_le _
      · exact shorter
  | done result => exact Nat.le_refl 0

/-- Turns keep what decoding gives. -/
theorem result_iterate_turn (count : Nat) (place : Place) :
    (turn^[count] place).result = place.result := by
  induction count with
  | zero => rfl
  | succ count inductionHypothesis =>
    rw [Function.iterate_succ_apply', result_turn, inductionHypothesis]

theorem turnsLeft_iterate_turn_le (count : Nat) (place : Place) :
    (turn^[count] place).turnsLeft ≤ place.turnsLeft - count := by
  induction count with
  | zero => exact Nat.le_refl _
  | succ count inductionHypothesis =>
    rw [Function.iterate_succ_apply']
    have fewer := turnsLeft_turn_le (turn^[count] place)
    omega

/-- After as many turns as there can be, decoding is done. -/
theorem turn_iterate_turnsLeft (place : Place) :
    turn^[place.turnsLeft] place = done place.result := by
  have few := turnsLeft_iterate_turn_le place.turnsLeft place
  rw [Nat.sub_self, Nat.le_zero] at few
  rw [eq_done_of_turnsLeft few, result_iterate_turn]

end Place

/-! ### All of decoding -/

/-- Octets that memory holds are decoded to a body exactly if they begin with its coding and it is
within the limit. A body and an error stay what they are when more octets arrive, so a part of a
coding that is within the limit is neither. After as many turns of the loops as there are octets,
and one more, decoding is done. -/
theorem decode_exact {limit : Nat} {octets : Octets} (addressable : octets.length < wordLimit) :
    (∀ body, decode limit octets = .ok (some body) ↔
      (∃ coding rest, octets = coding ++ rest ∧ Coding coding body) ∧ body.length ≤ limit) ∧
    (decode limit octets ≠ .ok none →
      ∀ later, decode limit (octets ++ later) = decode limit octets) ∧
    (∀ body, Coding octets body → body.length ≤ limit →
      ∀ part, part <+: octets → part ≠ octets → decode limit part = .ok none) ∧
    Place.turn^[octets.length + 1] (.sizeLine limit 0 [] octets) = .done (decode limit octets) :=
  ⟨fun _ => decode_eq_some_iff addressable, fun settled later => decode_append settled later,
    fun _ codes fits _ before short => decode_part_of_coding addressable codes fits before short,
    Place.turn_iterate_turnsLeft (.sizeLine limit 0 [] octets)⟩

/-- A chunk that looks like the end of a coding. -/
def misleadingChunk : Octets := [0x30] ++ (lineEnd ++ lineEnd)

/-- The coding of a misleading chunk, with an extension in its size line and a trailer line. -/
def misleadingCoding : Octets :=
  [0x35, 0x3b, 0x71] ++ (lineEnd ++ (misleadingChunk ++ (lineEnd ++
    ([0x30] ++ (lineEnd ++ ([0x41, 0x3a] ++ (lineEnd ++ lineEnd)))))))

theorem coding_misleadingCoding : Coding misleadingCoding (misleadingChunk ++ []) :=
  .chunk ⟨by decide, ['5', ';', 'q'], by decide, rfl⟩ (List.cons_ne_nil _ _)
    (.last ⟨by decide, ['0'], by decide, rfl⟩
      (.field (by decide) (List.cons_ne_nil _ _) .ended))

theorem decode_exact_misleadingCoding :
    misleadingCoding.length < wordLimit ∧
      decode 5 misleadingCoding = .ok (some misleadingChunk) ∧
      decode 5 misleadingCoding ≠ .ok none ∧
      decode 5 (misleadingCoding ++ [0x0d]) = .ok (some misleadingChunk) ∧
      misleadingCoding.take 12 <+: misleadingCoding ∧ misleadingCoding.take 12 ≠ misleadingCoding ∧
      decode 5 (misleadingCoding.take 12) = .ok none ∧
      Place.turn^[misleadingCoding.length + 1] (.sizeLine 5 0 [] misleadingCoding) =
        .done (.ok (some misleadingChunk)) := by
  have addressable : misleadingCoding.length < wordLimit := by decide
  have codes : Coding misleadingCoding misleadingChunk := coding_misleadingCoding
  have part : misleadingCoding.take 12 ≠ misleadingCoding := by decide
  obtain ⟨decoded, stable, parts, turns⟩ :=
    @decode_exact 5 misleadingCoding addressable
  have whole : decode 5 misleadingCoding = .ok (some misleadingChunk) :=
    (decoded _).mpr ⟨⟨_, [], (List.append_nil _).symm, codes⟩, by decide⟩
  have settled : decode 5 misleadingCoding ≠ .ok none := by
    rw [whole]
    exact nofun
  exact ⟨addressable, whole, settled, (stable settled _).trans whole, List.take_prefix _ _, part,
    parts _ codes (by decide) _ (List.take_prefix _ _) part, turns.trans (congrArg _ whole)⟩

end WebFetch.Chunked
