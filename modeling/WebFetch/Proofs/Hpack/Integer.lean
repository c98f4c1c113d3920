/-
This file proves that integers are read back as they were written, whatever follows them. The
pattern of the first octet has to leave the last bits free, and the value has to fit 64 bits; then
no shift exceeds 63, so the check for an overflow never fires.
-/

import Mathlib.Algebra.Ring.Nat
import WebFetch.Hpack.Integer

namespace WebFetch.Hpack.Integer

theorem mask_eq (bits : Nat) : mask bits = 2 ^ bits - 1 := by
  rw [mask, Nat.one_shiftLeft]

/-! ### The first octet -/

/-- A pattern and a small value do not disturb each other. -/
theorem toNat_or_ofNat {bits value : Nat} {pattern : UInt8} (narrow : bits ≤ 8)
    (free : pattern.toNat % 2 ^ bits = 0) (small : value < 2 ^ bits) :
    (pattern ||| UInt8.ofNat value).toNat = pattern.toNat + value := by
  have octetSmall : value < UInt8.size :=
    Nat.lt_of_lt_of_le small (Nat.pow_le_pow_right (by decide) narrow)
  have multiple : 2 ^ bits * (pattern.toNat / 2 ^ bits) = pattern.toNat :=
    Nat.mul_div_cancel' (Nat.dvd_of_mod_eq_zero free)
  rw [UInt8.toNat_or, UInt8.toNat_ofNat_of_lt' octetSmall]
  calc pattern.toNat ||| value
    _ = 2 ^ bits * (pattern.toNat / 2 ^ bits) ||| value := by rw [multiple]
    _ = 2 ^ bits * (pattern.toNat / 2 ^ bits) + value :=
      (Nat.two_pow_add_eq_or_of_lt small _).symm
    _ = pattern.toNat + value := by rw [multiple]

/-- The value in the first octet is read back. -/
theorem toNat_or_ofNat_mod {bits value : Nat} {pattern : UInt8} (narrow : bits ≤ 8)
    (free : pattern.toNat % 2 ^ bits = 0) (small : value < 2 ^ bits) :
    (pattern ||| UInt8.ofNat value).toNat % (1 <<< bits) = value := by
  rw [toNat_or_ofNat narrow free small, Nat.one_shiftLeft, Nat.add_mod, free, Nat.zero_add,
    Nat.mod_mod, Nat.mod_eq_of_lt small]

/-- The first octet of an integer is the pattern with some value in the bits that it leaves
free. -/
theorem exists_encode_eq_cons (bits : Nat) (pattern : UInt8) (value : Nat) :
    ∃ first rest, first < 2 ^ bits ∧
      encode bits pattern value = (pattern ||| UInt8.ofNat first) :: rest := by
  have positive := Nat.two_pow_pos bits
  unfold encode
  rw [mask_eq]
  split
  · exact ⟨value, [], by omega, rfl⟩
  · exact ⟨2 ^ bits - 1, groups (value - (2 ^ bits - 1)), by omega, rfl⟩

/-! ### The octets after it -/

/-- Reading the groups of a value adds the value, shifted to where reading is. -/
theorem extend_groups {size base shift value : Nat} (rest : Octets) (room : shift < 64)
    (small : base + value * 2 ^ shift < wordLimit) :
    extend size base shift (groups value ++ rest) = .ok (base + value * 2 ^ shift, rest) := by
  fun_induction groups value generalizing base shift with
  | case1 value low =>
    have stored : (UInt8.ofNat value).toNat = value :=
      UInt8.toNat_ofNat_of_lt' (Nat.lt_trans low (by decide))
    have last : UInt8.ofNat value < 128 := by
      rw [UInt8.lt_iff_toNat_lt, stored]
      exact low
    have fits : ¬ (64 ≤ shift ∨ wordLimit ≤ base + value * 2 ^ shift) := by omega
    show extend size base shift (UInt8.ofNat value :: rest) = _
    simp only [extend, stored, Nat.mod_eq_of_lt low, Nat.shiftLeft_eq, if_neg fits, if_pos last]
  | case2 value high inductionHypothesis =>
    have stored : (UInt8.ofNat (value % 128 + 128)).toNat = value % 128 + 128 :=
      UInt8.toNat_ofNat_of_lt' (show value % 128 + 128 < 256 by omega)
    have continued : ¬ UInt8.ofNat (value % 128 + 128) < 128 := by
      rw [UInt8.lt_iff_toNat_lt, stored]
      exact Nat.not_lt_of_le (Nat.le_add_left 128 _)
    have low : (value % 128 + 128) % 128 = value % 128 := by omega
    have parts : value * 2 ^ shift = value % 128 * 2 ^ shift + value / 128 * 2 ^ (shift + 7) := by
      rw [Nat.pow_add, ← Nat.mul_assoc, Nat.mul_right_comm, ← Nat.add_mul, Nat.mul_comm _ (2 ^ 7)]
      exact congrArg (· * 2 ^ shift) (Nat.mod_add_div value 128).symm
    -- A value with another group reaches beyond the seven bits of this one.
    have nextRoom : shift + 7 < 64 := by
      have reach : 2 ^ (shift + 7) < 2 ^ 64 := by
        calc 2 ^ (shift + 7)
          _ = 1 * 2 ^ (shift + 7) := (Nat.one_mul _).symm
          _ ≤ value / 128 * 2 ^ (shift + 7) := Nat.mul_le_mul_right _ (by omega)
          _ < 2 ^ 64 := by
            have limit : wordLimit = 2 ^ 64 := rfl
            omega
      exact (Nat.pow_lt_pow_iff_right (by decide)).mp reach
    have fits : ¬ (64 ≤ shift ∨ wordLimit ≤ base + value % 128 * 2 ^ shift) := by omega
    show extend size base shift
      (UInt8.ofNat (value % 128 + 128) :: (groups (value / 128) ++ rest)) = _
    simp only [extend, stored, low, Nat.shiftLeft_eq, if_neg fits, if_neg continued]
    rw [inductionHypothesis nextRoom (by omega), parts, Nat.add_assoc]

/-- Integers are read back as they were written. -/
theorem decode_encode {size bits value : Nat} {pattern : UInt8} (rest : Octets) (narrow : bits ≤ 8)
    (free : pattern.toNat % 2 ^ bits = 0) (small : value < wordLimit) :
    decode size bits (encode bits pattern value ++ rest) = .ok (value, rest) := by
  have positive := Nat.two_pow_pos bits
  unfold encode
  by_cases low : value < mask bits
  · have read := toNat_or_ofNat_mod narrow free
      (show value < 2 ^ bits by rw [mask_eq] at low; omega)
    rw [if_pos low]
    show decode size bits ((pattern ||| UInt8.ofNat value) :: rest) = _
    simp only [decode, read, if_pos low]
  · have read := toNat_or_ofNat_mod narrow free
      (show mask bits < 2 ^ bits by rw [mask_eq]; omega)
    rw [if_neg low]
    show decode size bits
      ((pattern ||| UInt8.ofNat (mask bits)) :: (groups (value - mask bits) ++ rest)) = _
    simp only [decode, read, if_neg (Nat.lt_irrefl (mask bits))]
    rw [extend_groups rest (by decide) (by omega), Nat.pow_zero, Nat.mul_one,
      Nat.add_sub_cancel' (Nat.le_of_not_lt low)]

end WebFetch.Hpack.Integer
