/-
This file relates numbers and the octets they are written in: what the width cannot hold of a
number is lost, and nothing else; and octets are what their number is written in.
-/

import Mathlib.Algebra.Ring.Nat
import Mathlib.Data.List.Induction
import WebFetch.Octets

namespace WebFetch.Octets

theorem toNat_concat (octets : Octets) (octet : UInt8) :
    toNat (octets ++ [octet]) = toNat octets * 256 + octet.toNat :=
  List.foldl_append

/-- A number is read back modulo what its width holds. -/
theorem toNat_ofNat (width value : Nat) : toNat (ofNat width value) = value % 256 ^ width := by
  induction width generalizing value with
  | zero => rw [Nat.pow_zero, Nat.mod_one]; rfl
  | succ width inductionHypothesis =>
    have parts : value % 256 ^ (width + 1) = value % 256 + 256 * (value / 256 % 256 ^ width) := by
      rw [Nat.pow_succ, Nat.mul_comm, Nat.mod_mul]
    have last : (UInt8.ofNat value).toNat = value % 256 := UInt8.toNat_ofNat'
    rw [ofNat, toNat_concat, inductionHypothesis, last, parts]
    omega

/-- A number that fits its width is read back. -/
theorem toNat_ofNat_of_lt {width value : Nat} (small : value < 256 ^ width) :
    toNat (ofNat width value) = value := by
  rw [toNat_ofNat, Nat.mod_eq_of_lt small]

/-- The number of octets is written in the same octets. -/
theorem ofNat_toNat (octets : Octets) : ofNat octets.length (toNat octets) = octets := by
  induction octets using List.reverseRecOn with
  | nil => rfl
  | append_singleton octets octet inductionHypothesis =>
    have small : octet.toNat < 256 := octet.toNat_lt
    have front : (toNat octets * 256 + octet.toNat) / 256 = toNat octets := by omega
    have last : UInt8.ofNat (toNat octets * 256 + octet.toNat) = octet := by
      rw [← UInt8.toNat_inj, UInt8.toNat_ofNat']
      omega
    rw [List.length_append, List.length_singleton, ofNat, toNat_concat, front, last,
      inductionHypothesis]

theorem toNat_lt (octets : Octets) : toNat octets < 256 ^ octets.length := by
  induction octets using List.reverseRecOn with
  | nil => exact Nat.one_pos
  | append_singleton octets octet inductionHypothesis =>
    have small : octet.toNat < 256 := octet.toNat_lt
    rw [List.length_append, List.length_singleton, toNat_concat, Nat.pow_succ]
    omega

end WebFetch.Octets
