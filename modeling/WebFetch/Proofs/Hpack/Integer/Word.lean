/-
This file reads integers as a machine does: with values and offsets in words of 64 bits and shifts
in words of 32. What a shift pushes out of a word is lost, and a sum wraps around; reading notices
both afterwards, so it gives what reading in numbers without bounds gives.
-/

import WebFetch.Proofs.Hpack.Integer.Value

namespace WebFetch.Hpack.Integer

/-! ### Reading in words -/

/-- The largest value of the bits that begin an integer, as a word. -/
def wordMask (bits : Nat) : UInt64 := ((1 : UInt16) <<< UInt16.ofNat bits - 1).toUInt64

/-- The place of an octet, if its end can be written in a word. -/
def placeOf (offset length : UInt64) : Except HpackError UInt64 :=
  let place := offset + length
  if place < offset ∨ place + 1 < place then .error (.range .overflow) else .ok place

/-- Adds the octets that follow to a value. The integer begins at an offset of a string of `size`
octets, and `length` octets of it have been read. -/
def extendWord (size : Nat) (offset length value : UInt64) (shift : UInt32) :
    Octets → Except HpackError (UInt64 × UInt64)
  | [] => do
    let place ← placeOf offset length
    .error (.range (.outOfRange place.toNat 1 size))
  | octet :: rest => do
    let _ ← placeOf offset length
    let group := (octet &&& 0x7f).toUInt64
    let chunk := group <<< shift.toUInt64
    let sum := value + chunk
    if 64 ≤ shift ∨ chunk >>> shift.toUInt64 ≠ group ∨ sum < value then .error .integerOverflow
    else if octet &&& 0x80 = 0 then .ok (sum, length + 1)
    else extendWord size offset (length + 1) sum (shift + 7) rest

/-- The integer at an offset of octets, and the number of octets it takes. -/
def decodeWordAt (octets : Octets) (offset : UInt64) (bits : Nat) :
    Except HpackError (UInt64 × UInt64) := do
  let place ← placeOf offset 0
  match octets.drop place.toNat with
  | [] => .error (.range (.outOfRange place.toNat 1 octets.length))
  | first :: following =>
    let value := first.toUInt64 &&& wordMask bits
    if value < wordMask bits then .ok (value, 1)
    else extendWord octets.length offset 1 value 0 following

/-! ### What words do not hold -/

theorem toNat_wordMask {bits : Nat} (narrow : bits ≤ 8) :
    (wordMask bits).toNat = 2 ^ bits - 1 := by
  have all : ∀ bits ≤ 8, (wordMask bits).toNat = 2 ^ bits - 1 := by decide
  exact all bits narrow

theorem placeOf_eq {offset length : UInt64} (small : offset.toNat + length.toNat + 1 < 2 ^ 64) :
    placeOf offset length = .ok (offset + length) := by
  have place : (offset + length).toNat = offset.toNat + length.toNat := by
    rw [UInt64.toNat_add, Nat.mod_eq_of_lt (by omega)]
  have next : (offset + length + 1).toNat = offset.toNat + length.toNat + 1 := by
    rw [UInt64.toNat_add, place, UInt64.toNat_one, Nat.mod_eq_of_lt small]
  rw [placeOf, if_neg]
  simp only [UInt64.lt_iff_toNat_lt, place, next]
  omega

theorem toNat_group (octet : UInt8) : (octet &&& 0x7f).toUInt64.toNat = octet.toNat % 128 := by
  rw [UInt8.toNat_toUInt64, UInt8.toNat_and]
  exact Nat.and_two_pow_sub_one_eq_mod octet.toNat 7

theorem continues_iff (octet : UInt8) : octet &&& 0x80 = 0 ↔ octet < 128 := by
  have all : ∀ value < 256, (value &&& 128 = 0 ↔ value < 128) := by decide +kernel
  rw [← UInt8.toNat_inj, UInt8.toNat_and, UInt8.lt_iff_toNat_lt]
  exact all octet.toNat octet.toNat_lt

theorem toNat_chunk {group : UInt64} {shift : UInt32} (near : shift.toNat < 64) :
    (group <<< shift.toUInt64).toNat = group.toNat * 2 ^ shift.toNat % 2 ^ 64 := by
  rw [UInt64.toNat_shiftLeft, UInt32.toNat_toUInt64, Nat.mod_eq_of_lt near, Nat.shiftLeft_eq]

/-- A group that was shifted is shifted back if no bit of it left the word. -/
theorem shiftRight_chunk_iff {group : UInt64} {shift : UInt32} (near : shift.toNat < 64) :
    group <<< shift.toUInt64 >>> shift.toUInt64 = group ↔
      group.toNat * 2 ^ shift.toNat < 2 ^ 64 := by
  rw [← UInt64.toNat_inj, UInt64.toNat_shiftRight, toNat_chunk near, UInt32.toNat_toUInt64,
    Nat.mod_eq_of_lt near, Nat.shiftRight_eq_div_pow]
  constructor
  · intro same
    calc group.toNat * 2 ^ shift.toNat
      _ = group.toNat * 2 ^ shift.toNat % 2 ^ 64 / 2 ^ shift.toNat * 2 ^ shift.toNat := by rw [same]
      _ ≤ group.toNat * 2 ^ shift.toNat % 2 ^ 64 := Nat.div_mul_le_self _ _
      _ < 2 ^ 64 := Nat.mod_lt _ (Nat.two_pow_pos 64)
  · intro fits
    rw [Nat.mod_eq_of_lt fits, Nat.mul_div_cancel _ (Nat.two_pow_pos _)]

/-- A sum is less than what was added to if it wrapped around. -/
theorem add_lt_self_iff (value chunk : UInt64) :
    value + chunk < value ↔ 2 ^ 64 ≤ value.toNat + chunk.toNat := by
  have valueSmall := value.toNat_lt
  have chunkSmall := chunk.toNat_lt
  rw [UInt64.lt_iff_toNat_lt, UInt64.toNat_add]
  omega

/-- Reading in words refuses the octets that exceed 64 bits, and no others. -/
theorem refused_iff (value : UInt64) (shift : UInt32) (octet : UInt8) :
    (64 ≤ shift ∨
      (octet &&& 0x7f).toUInt64 <<< shift.toUInt64 >>> shift.toUInt64 ≠ (octet &&& 0x7f).toUInt64 ∨
      value + (octet &&& 0x7f).toUInt64 <<< shift.toUInt64 < value) ↔
    Exceeds value.toNat shift.toNat octet := by
  have limit : wordLimit = 2 ^ 64 := rfl
  have width : (64 : UInt32).toNat = 64 := rfl
  rw [Exceeds, UInt32.le_iff_toNat_le, width, limit]
  refine or_congr_right' fun near => ?_
  have near := Nat.lt_of_not_le near
  rw [ne_eq, shiftRight_chunk_iff near, add_lt_self_iff, toNat_chunk near, toNat_group]
  by_cases fits : octet.toNat % 128 * 2 ^ shift.toNat < 2 ^ 64
  · rw [Nat.mod_eq_of_lt fits, or_iff_right (not_not_intro fits)]
  · exact iff_of_true (Or.inl fits) (by omega)

/-- The sum of a value and an octet that does not exceed 64 bits is in the word. -/
theorem toNat_add_chunk {value : UInt64} {shift : UInt32} {octet : UInt8}
    (small : ¬ Exceeds value.toNat shift.toNat octet) :
    (value + (octet &&& 0x7f).toUInt64 <<< shift.toUInt64).toNat =
      value.toNat + octet.toNat % 128 * 2 ^ shift.toNat := by
  have limit : wordLimit = 2 ^ 64 := rfl
  rw [Exceeds, not_or, Nat.not_le, Nat.not_le, limit] at small
  have fits : octet.toNat % 128 * 2 ^ shift.toNat < 2 ^ 64 := by omega
  rw [UInt64.toNat_add, toNat_chunk small.1, toNat_group, Nat.mod_eq_of_lt fits,
    Nat.mod_eq_of_lt small.2]

/-! ### The same integers -/

/-- A word value and a number of octets in a word, as numbers. -/
def toNats (result : UInt64 × UInt64) : Nat × Nat := (result.1.toNat, result.2.toNat)

/-- The octets that follow are read in words as they are in numbers. -/
theorem extendWord_eq {size : Nat} {offset length value : UInt64} {shift : UInt32}
    {octets : Octets} (short : size < 2 ^ 63)
    (left : offset.toNat + length.toNat + octets.length = size) :
    (extendWord size offset length value shift octets).map toNats =
      (extend size value.toNat shift.toNat octets).map
        fun (value, rest) => (value, length.toNat + octets.length - rest.length) := by
  induction octets generalizing length value shift with
  | nil =>
    rw [List.length_nil, Nat.add_zero] at left
    have place : (offset + length).toNat = size := by
      rw [UInt64.toNat_add, left, Nat.mod_eq_of_lt (by omega)]
    have addressable : ¬ wordLimit ≤ size + 1 := by
      have limit : wordLimit = 2 ^ 64 := rfl
      omega
    have read : extendWord size offset length value shift [] =
        .error (.range (.outOfRange size 1 size)) := by
      rw [extendWord, placeOf_eq (by omega), ← place]
      rfl
    have missed : missing size 1 [] = .range (.outOfRange size 1 size) := if_neg addressable
    rw [read, extend, missed]
    rfl
  | cons octet octets inductionHypothesis =>
    rw [List.length_cons] at left
    rw [extendWord, placeOf_eq (by omega)]
    show Except.map toNats (if _ then _ else if _ then _ else _) = _
    by_cases exceeds : Exceeds value.toNat shift.toNat octet
    · rw [if_pos ((refused_iff value shift octet).mpr exceeds), extend_of_exceeds octets exceeds]
      rfl
    · have sum := toNat_add_chunk exceeds
      have counted : (length + 1).toNat = length.toNat + 1 := by
        rw [UInt64.toNat_add, UInt64.toNat_one, Nat.mod_eq_of_lt (by omega)]
      rw [if_neg (fun refused => exceeds ((refused_iff value shift octet).mp refused))]
      by_cases ends : octet < 128
      · rw [if_pos ((continues_iff octet).mpr ends), extend_of_last octets exceeds ends]
        show Except.ok ((value + _).toNat, (length + 1).toNat) =
          Except.ok (_, length.toNat + (octets.length + 1) - octets.length)
        rw [sum, counted, ← Nat.add_assoc, Nat.add_right_comm, Nat.add_sub_cancel]
      · have near : shift.toNat < 64 := Nat.lt_of_not_le fun far => exceeds (Or.inl far)
        have shifted : (shift + 7).toNat = shift.toNat + 7 := by
          rw [UInt32.toNat_add, Nat.mod_eq_of_lt (by show _ + 7 < 2 ^ 32; omega)]
          rfl
        rw [if_neg (fun last => ends ((continues_iff octet).mp last)),
          extend_of_continued octets exceeds (UInt8.not_lt.mp ends),
          inductionHypothesis (by rw [counted]; omega), sum, shifted, counted, List.length_cons,
          Nat.add_right_comm, Nat.add_assoc]

/-- Integers are read in words as they are in numbers. -/
theorem decodeWordAt_eq {octets : Octets} {offset bits : Nat} (short : octets.length < 2 ^ 63)
    (inside : offset ≤ octets.length) (narrow : bits ≤ 8) :
    (decodeWordAt octets (UInt64.ofNat offset) bits).map toNats = decodeAt octets offset bits := by
  have place : (UInt64.ofNat offset).toNat = offset := UInt64.toNat_ofNat_of_lt' (by
    show offset < 2 ^ 64
    omega)
  have addressable : offset + 1 < wordLimit := by
    have limit : wordLimit = 2 ^ 64 := rfl
    omega
  have zero : UInt64.ofNat offset + 0 = UInt64.ofNat offset := UInt64.add_zero _
  rw [decodeWordAt, placeOf_eq (by rw [place]; show offset + 0 + 1 < 2 ^ 64; omega), zero]
  show Except.map toNats (match octets.drop (UInt64.ofNat offset).toNat with
    | [] => _
    | first :: following => _) = _
  rw [place]
  match found : octets.drop offset with
  | [] =>
    rw [decodeAt_of_nil bits addressable found]
    rfl
  | first :: following =>
    have mask := toNat_wordMask narrow
    have value : (first.toUInt64 &&& wordMask bits).toNat = first.toNat % 2 ^ bits := by
      rw [UInt64.toNat_and, UInt8.toNat_toUInt64, mask, Nat.and_two_pow_sub_one_eq_mod]
    have remaining := congrArg List.length found
    rw [List.length_drop, List.length_cons] at remaining
    rw [decodeAt_of_cons bits addressable found]
    show Except.map toNats (if _ < wordMask bits then _ else _) = _
    by_cases small : first.toNat % 2 ^ bits < 2 ^ bits - 1
    · have low : first.toUInt64 &&& wordMask bits < wordMask bits := by
        rwa [UInt64.lt_iff_toNat_lt, value, mask]
      rw [if_pos low, if_pos small]
      exact congrArg (fun value => Except.ok (value, 1)) value
    · have high : ¬ first.toUInt64 &&& wordMask bits < wordMask bits := by
        rwa [UInt64.lt_iff_toNat_lt, value, mask]
      have full : first.toNat % 2 ^ bits = 2 ^ bits - 1 := by
        have below := Nat.mod_lt first.toNat (Nat.two_pow_pos bits)
        omega
      have left : (UInt64.ofNat offset).toNat + (1 : UInt64).toNat + following.length =
          octets.length := by
        rw [place, UInt64.toNat_one]
        omega
      rw [if_neg high, if_neg small, extendWord_eq short left, value, full, UInt64.toNat_one,
        UInt32.toNat_zero, readOn]
      simp only [Nat.add_comm 1]

/-- Every integer of a string that memory holds is read as is said of the octets at its place, and
in no other way. Words hold all the numbers on the way: reading in words gives the same. -/
theorem decodeAt_exact {octets : Octets} {offset bits : Nat} (short : octets.length < 2 ^ 63)
    (inside : offset ≤ octets.length) (narrow : bits ≤ 8) :
    (∀ result, decodeAt octets offset bits = result ↔
      ReadsAs bits octets.length (octets.drop offset) result) ∧
    (decodeWordAt octets (UInt64.ofNat offset) bits).map toNats = decodeAt octets offset bits :=
  ⟨decodeAt_eq_iff_readsAs bits short inside, decodeWordAt_eq short inside narrow⟩

/-- An octet, an integer in ten octets behind a full one, of which the last octet is given, and
another octet. -/
def longInteger (last : UInt8) : Octets :=
  [0x00, 0x1f, 0xe0] ++ List.replicate 8 0xff ++ [last, 0x2a]

/-- The largest value is read, and the next one that such octets denote overflows. -/
theorem decodeAt_exact_longInteger :
    (longInteger 1).length < 2 ^ 63 ∧ 1 ≤ (longInteger 1).length ∧ 5 ≤ 8 ∧
      ReadsAs 5 13 ((longInteger 1).drop 1) (.ok (2 ^ 64 - 1, 11)) ∧
      (decodeWordAt (longInteger 1) 1 5).map toNats = .ok (2 ^ 64 - 1, 11) ∧
      ReadsAs 5 13 ((longInteger 2).drop 1) (.error .integerOverflow) ∧
      (decodeWordAt (longInteger 2) 1 5).map toNats = .error .integerOverflow := by
  have short (last : UInt8) : (longInteger last).length < 2 ^ 63 := by
    show 13 < 2 ^ 63
    decide
  have inside (last : UInt8) : 1 ≤ (longInteger last).length := by
    show 1 ≤ 13
    decide
  have narrow : 5 ≤ 8 := by decide
  have largest : decodeAt (longInteger 1) 1 5 = .ok (2 ^ 64 - 1, 11) := by decide +kernel
  have next : decodeAt (longInteger 2) 1 5 = .error .integerOverflow := by decide +kernel
  obtain ⟨largestReads, largestWord⟩ := decodeAt_exact (short 1) (inside 1) narrow
  obtain ⟨nextReads, nextWord⟩ := decodeAt_exact (short 2) (inside 2) narrow
  exact ⟨short 1, inside 1, narrow, (largestReads _).mp largest, largestWord.trans largest,
    (nextReads _).mp next, nextWord.trans next⟩

end WebFetch.Hpack.Integer
