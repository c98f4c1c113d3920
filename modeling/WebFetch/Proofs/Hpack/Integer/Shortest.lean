/-
This file proves that an integer is written in as few octets as reading it can take. Reading some
number of octets after a full one gives a value below the power of 128 to that number, and writing
needs no more groups than the value has digits to the base 128.
-/

import WebFetch.Proofs.Hpack.Integer.Value

namespace WebFetch.Hpack.Integer

/-! ### Lengths -/

/-- A value has no more groups than digits to the base 128. -/
theorem length_groups_le {value count : Nat} (some : 0 < count) (small : value < 128 ^ count) :
    (groups value).length ≤ count := by
  induction count generalizing value with
  | zero => exact absurd some (Nat.lt_irrefl 0)
  | succ count inductionHypothesis =>
    rw [groups]
    split
    · exact Nat.succ_le_succ (Nat.zero_le count)
    · rename_i large
      have more : 0 < count := by
        rcases Nat.eq_zero_or_pos count with rfl | more
        · exact absurd small large
        · exact more
      have rest : value / 128 < 128 ^ count :=
        Nat.div_lt_of_lt_mul (by rwa [Nat.mul_comm, ← Nat.pow_succ])
      exact Nat.succ_le_succ (inductionHypothesis more rest)

/-- A value behind a mask is written in an octet for the mask and one for each group. -/
theorem length_encode_le {bits value count : Nat} (pattern : UInt8) (some : 0 < count)
    (small : value < mask bits + 128 ^ count) :
    (encode bits pattern value).length ≤ count + 1 := by
  rw [encode]
  split
  · exact Nat.succ_le_succ (Nat.zero_le count)
  · exact Nat.succ_le_succ (length_groups_le some (by omega))

theorem number_lt (octets : Octets) : number octets < 128 ^ octets.length := by
  have digits : ∀ digit ∈ octets.map fun octet => octet.toNat % 128, digit < 128 := by
    intro digit member
    obtain ⟨octet, _, rfl⟩ := List.mem_map.mp member
    exact Nat.mod_lt _ (by decide)
  have small := Nat.ofDigits_lt_base_pow_length (by decide : 1 < 128) digits
  rwa [List.length_map] at small

/-! ### Values that are read -/

theorem exists_fits_of_readOn {size bits value taken : Nat} {following : Octets}
    (read : readOn size bits following = .ok (value, taken)) :
    ∃ last, Fits bits following last ∧ value = denoted bits (following.take (last + 1)) ∧
      taken = last + 2 := by
  match found : extend size (2 ^ bits - 1) 0 following with
  | .ok (_, rest) =>
    obtain ⟨last, fits, _⟩ := extend_full_eq_ok_iff.mp found
    rw [readOn_of_fits fits] at read
    cases read
    exact ⟨last, fits, rfl, rfl⟩
  | .error _ =>
    rw [readOn, found] at read
    cases read

/-- A value that is read is written in no more octets than it took, and these lie in the string. -/
theorem length_encode_le_of_decodeAt {octets : Octets} {offset bits value taken : Nat}
    (pattern : UInt8) (read : decodeAt octets offset bits = .ok (value, taken)) :
    (encode bits pattern value).length ≤ taken ∧ offset + taken ≤ octets.length := by
  by_cases addressable : offset + 1 < wordLimit
  · match found : octets.drop offset with
    | [] =>
      rw [decodeAt_of_nil bits addressable found] at read
      cases read
    | first :: following =>
      have remaining := congrArg List.length found
      rw [List.length_drop, List.length_cons] at remaining
      rw [decodeAt_of_cons bits addressable found] at read
      split at read
      · rename_i small
        cases read
        rw [encode, mask_eq, if_pos small]
        exact ⟨Nat.le_refl 1, by omega⟩
      · obtain ⟨last, fits, rfl, rfl⟩ := exists_fits_of_readOn read
        have inside := fits.2.1.reaches.1
        have small := number_lt (following.take (last + 1))
        rw [List.length_take, Nat.min_eq_left inside] at small
        refine ⟨length_encode_le pattern (Nat.succ_pos last) ?_, by omega⟩
        rw [denoted, mask_eq]
        exact Nat.add_lt_add_left small _
  · rw [decodeAt, Window.bytes_of_overflow (Nat.le_of_not_lt addressable)] at read
    cases read

/-! ### Values that are written -/

/-- An integer is read back wherever it stands, whatever is around it. -/
theorem decodeAt_encode {bits value : Nat} {pattern : UInt8} {before : Octets} (after : Octets)
    (short : before.length < 2 ^ 63) (narrow : bits ≤ 8) (free : pattern.toNat % 2 ^ bits = 0)
    (small : value < 2 ^ 64) :
    decodeAt (before ++ encode bits pattern value ++ after) before.length bits =
      .ok (value, (encode bits pattern value).length) := by
  have addressable : before.length + 1 < wordLimit := by
    have limit : wordLimit = 2 ^ 64 := rfl
    omega
  have inside : before.length + 1 ≤ (before ++ encode bits pattern value ++ after).length := by
    obtain ⟨first, rest, _, same⟩ := exists_encode_eq_cons bits pattern value
    rw [same, List.length_append, List.length_append, List.length_cons]
    omega
  rw [decodeAt, @Window.bytes_of_le ⟨_⟩ _ 1 inside addressable, List.append_assoc, List.drop_left,
    decode_encode after narrow free small]
  show Except.ok (value, _) = _
  simp only [List.length_append]
  congr 2
  omega

/-- An integer is written behind what is there, in at most eleven octets of which the first one
keeps the pattern in the bits that are not its own. It is read back whatever is around it, and
wherever the same value is read, at least as many octets are taken. -/
theorem encode_shortest {bits value : Nat} {pattern : UInt8} (narrow : bits ≤ 8)
    (free : pattern.toNat % 2 ^ bits = 0) (small : value < 2 ^ 64) :
    (encode bits pattern value).length ≤ 11 ∧
    (∃ first rest, encode bits pattern value = first :: rest ∧
      first.toNat / 2 ^ bits = pattern.toNat / 2 ^ bits) ∧
    (∀ before after, before.length < 2 ^ 63 →
      decodeAt (before ++ encode bits pattern value ++ after) before.length bits =
        .ok (value, (encode bits pattern value).length)) ∧
    ∀ octets offset taken, decodeAt octets offset bits = .ok (value, taken) →
      (encode bits pattern value).length ≤ taken ∧ offset + taken ≤ octets.length := by
  refine ⟨?_, ?_, fun before after short => decodeAt_encode after short narrow free small,
    fun octets offset taken => length_encode_le_of_decodeAt pattern⟩
  · refine length_encode_le pattern (by decide : 0 < 10) ?_
    calc value
      _ < 2 ^ 64 := small
      _ ≤ 128 ^ 10 := by decide
      _ ≤ mask bits + 128 ^ 10 := Nat.le_add_left _ _
  · obtain ⟨first, rest, low, same⟩ := exists_encode_eq_cons bits pattern value
    refine ⟨_, rest, same, ?_⟩
    have positive := Nat.two_pow_pos bits
    obtain ⟨high, pattern_eq⟩ := Nat.dvd_of_mod_eq_zero free
    rw [toNat_or_ofNat narrow free low, pattern_eq, Nat.mul_add_div positive,
      Nat.div_eq_of_lt low, Nat.add_zero, Nat.mul_div_cancel_left _ positive]

/-- The largest value takes all of eleven octets, and cannot be read from fewer. -/
theorem encode_shortest_largestValue :
    5 ≤ 8 ∧ (0x20 : UInt8).toNat % 2 ^ 5 = 0 ∧ 2 ^ 64 - 1 < 2 ^ 64 ∧
      (encode 5 0x20 (2 ^ 64 - 1)).length = 11 ∧
      decodeAt ([0x82, 0x84] ++ encode 5 0x20 (2 ^ 64 - 1) ++ [0x40]) 2 5 =
        .ok (2 ^ 64 - 1, 11) ∧
      ∀ octets offset taken, decodeAt octets offset 5 = .ok (2 ^ 64 - 1, taken) → 11 ≤ taken := by
  have narrow : 5 ≤ 8 := by decide
  have free : (0x20 : UInt8).toNat % 2 ^ 5 = 0 := by decide
  have small : 2 ^ 64 - 1 < 2 ^ 64 := by decide
  have eleven : (encode 5 0x20 (2 ^ 64 - 1)).length = 11 := by decide +kernel
  obtain ⟨_, _, read, least⟩ := encode_shortest narrow free small
  have around := read [0x82, 0x84] [0x40] (by decide)
  rw [eleven] at around
  refine ⟨narrow, free, small, eleven, around, fun octets offset taken found => ?_⟩
  have taken_le := (least octets offset taken found).1
  rwa [eleven] at taken_le

end WebFetch.Hpack.Integer
