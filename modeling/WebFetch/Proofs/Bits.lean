/-
This file relates bits and the numbers and octets they stand for. Bits are recovered from the
number they denote, and a number from its bits as far as they hold it. Bits are put together to
octets, of which a last one that lacks bits is filled up with ones; the bits are recovered from the
octets, with these ones behind them. Octets are known by their bits.
-/

import Mathlib.Algebra.Ring.Nat
import Mathlib.Data.List.Induction
import WebFetch.Bits

namespace WebFetch.Bits

/-! ### Numbers -/

theorem toNat_concat (bits : List Bool) (bit : Bool) :
    toNat (bits ++ [bit]) = 2 * toNat bits + bit.toNat :=
  List.foldl_append

/-- The bits of a number are those of its half, and its last bit. -/
theorem ofNat_succ (count value : Nat) :
    ofNat (count + 1) value = ofNat count (value / 2) ++ [value.testBit 0] := by
  rw [ofNat, List.range_succ_eq_map, List.reverse_cons, List.map_append, ← List.map_reverse,
    List.map_map]
  refine congrArg (· ++ [value.testBit 0]) (List.map_congr_left fun place _ => ?_)
  exact Nat.testBit_succ value place

theorem toNat_lt (bits : List Bool) : toNat bits < 2 ^ bits.length := by
  induction bits using List.reverseRecOn with
  | nil => exact Nat.one_pos
  | append_singleton bits bit inductionHypothesis =>
    have bitSmall : bit.toNat < 2 := bit.toNat_lt
    rw [toNat_concat, List.length_append, List.length_singleton, Nat.pow_succ]
    omega

/-- Bits are those of the number they denote. -/
theorem ofNat_toNat (bits : List Bool) : ofNat bits.length (toNat bits) = bits := by
  induction bits using List.reverseRecOn with
  | nil => rfl
  | append_singleton bits bit inductionHypothesis =>
    have half : (2 * toNat bits + bit.toNat) / 2 = toNat bits := by
      have bitSmall : bit.toNat < 2 := bit.toNat_lt
      omega
    have last : (2 * toNat bits + bit.toNat).testBit 0 = bit := by
      cases bit <;> simp [Nat.testBit_zero]
    rw [toNat_concat, List.length_append, List.length_singleton, ofNat_succ, half, last,
      inductionHypothesis]

theorem length_ofNat (count value : Nat) : (ofNat count value).length = count := by
  rw [ofNat, List.length_map, List.length_reverse, List.length_range]

/-- Some bits denote the remainder of the number that they are the last of. -/
theorem toNat_ofNat (count value : Nat) : toNat (ofNat count value) = value % 2 ^ count := by
  induction count generalizing value with
  | zero => rw [Nat.pow_zero, Nat.mod_one]; rfl
  | succ count inductionHypothesis =>
    have last : (value.testBit 0).toNat = value % 2 := Nat.toNat_testBit value 0 |>.trans (by simp)
    have parts : value % 2 ^ (count + 1) = value % 2 + 2 * (value / 2 % 2 ^ count) := by
      rw [Nat.pow_succ, Nat.mul_comm, Nat.mod_mul]
    rw [ofNat_succ, toNat_concat, inductionHypothesis, last, parts, Nat.add_comm]

/-- The last bits of a number come after those of what is before them. -/
theorem ofNat_add (front back value : Nat) :
    ofNat (front + back) value = ofNat front (value / 2 ^ back) ++ ofNat back value := by
  induction back generalizing value with
  | zero => rw [Nat.pow_zero, Nat.div_one]; exact (List.append_nil _).symm
  | succ back inductionHypothesis =>
    rw [← Nat.add_assoc, ofNat_succ, ofNat_succ, inductionHypothesis, List.append_assoc,
      Nat.div_div_eq_div_mul, Nat.pow_succ, Nat.mul_comm 2]

/-- Some bits are the same for the remainder of a number. -/
theorem ofNat_mod (count value : Nat) : ofNat count (value % 2 ^ count) = ofNat count value := by
  have read := ofNat_toNat (ofNat count value)
  rwa [length_ofNat, toNat_ofNat] at read

/-- The bits of a number below a power of two come after those that are shifted out of its way. -/
theorem ofNat_shift_add {back low : Nat} (small : low < 2 ^ back) (front high : Nat) :
    ofNat (front + back) (high * 2 ^ back + low) = ofNat front high ++ ofNat back low := by
  rw [ofNat_add, Nat.mul_comm, Nat.mul_add_div (Nat.two_pow_pos back), Nat.div_eq_of_lt small,
    Nat.add_zero, ← ofNat_mod back (2 ^ back * high + low), Nat.mul_add_mod, Nat.mod_eq_of_lt small]

/-! ### Octets -/

/-- The octet of at most eight bits. -/
def octet (bits : List Bool) : UInt8 :=
  UInt8.ofNat (toNat (bits ++ List.replicate (8 - bits.length) true))

/-- The octets of bits, after octets that are given last first. -/
def toOctetsFrom (octets : Octets) : List Bool → Octets
  | bit0 :: bit1 :: bit2 :: bit3 :: bit4 :: bit5 :: bit6 :: bit7 :: rest =>
    toOctetsFrom (octet [bit0, bit1, bit2, bit3, bit4, bit5, bit6, bit7] :: octets) rest
  | [] => octets.reverse
  | rest => (octet rest :: octets).reverse

/-- The octets of bits, filled up with ones. -/
def toOctets (bits : List Bool) : Octets :=
  toOctetsFrom [] bits

/-- An octet holds its bits, and ones behind them. -/
theorem ofNat_octet {bits : List Bool} (few : bits.length ≤ 8) :
    ofNat 8 (octet bits).toNat = bits ++ List.replicate (8 - bits.length) true := by
  have length : (bits ++ List.replicate (8 - bits.length) true).length = 8 := by
    rw [List.length_append, List.length_replicate]
    omega
  have small := toNat_lt (bits ++ List.replicate (8 - bits.length) true)
  rw [length] at small
  rw [octet, UInt8.toNat_ofNat_of_lt' small]
  have recovered := ofNat_toNat (bits ++ List.replicate (8 - bits.length) true)
  rwa [length] at recovered

theorem toNat_append (first second : List Bool) :
    toNat (first ++ second) = toNat first * 2 ^ second.length + toNat second := by
  induction second using List.reverseRecOn with
  | nil => rw [List.append_nil, List.length_nil, Nat.pow_zero, Nat.mul_one]; rfl
  | append_singleton second bit inductionHypothesis =>
    rw [← List.append_assoc, toNat_concat, inductionHypothesis, toNat_concat, List.length_append,
      List.length_singleton, Nat.pow_succ, Nat.mul_add, Nat.add_assoc, Nat.mul_left_comm,
      Nat.mul_comm 2]

/-- The octet of eight bits is the number that they denote. -/
theorem octet_ofNat (value : Nat) : octet (ofNat 8 value) = UInt8.ofNat value := by
  rw [octet, length_ofNat, Nat.sub_self, List.replicate_zero, List.append_nil, toNat_ofNat]
  exact UInt8.ofNat_mod_size

theorem toNat_replicate (count : Nat) : toNat (List.replicate count true) = 2 ^ count - 1 := by
  induction count with
  | zero => rfl
  | succ count inductionHypothesis =>
    have positive := Nat.two_pow_pos count
    rw [List.replicate_succ', toNat_concat, inductionHypothesis, Nat.pow_succ, Bool.toNat_true]
    omega

/-- Eight bits are put together to an octet before those that follow them. -/
theorem toOctetsFrom_ofNat (octets : Octets) (value : Nat) (rest : List Bool) :
    toOctetsFrom octets (ofNat 8 value ++ rest) =
      toOctetsFrom (UInt8.ofNat value :: octets) rest := by
  rw [← octet_ofNat]
  rfl

/-- A few bits are put together to one octet. -/
theorem toOctetsFrom_of_short {bits : List Bool} (octets : Octets) (some : 0 < bits.length)
    (few : bits.length < 8) : toOctetsFrom octets bits = (octet bits :: octets).reverse := by
  match bits with
  | [_] | [_, _] | [_, _, _] | [_, _, _, _] | [_, _, _, _, _] | [_, _, _, _, _, _]
  | [_, _, _, _, _, _, _] => rfl

theorem ofOctets_append (first second : Octets) :
    ofOctets (first ++ second) = ofOctets first ++ ofOctets second :=
  List.flatMap_append

theorem length_ofOctets (octets : Octets) : (ofOctets octets).length = 8 * octets.length := by
  induction octets with
  | nil => rfl
  | cons octet octets inductionHypothesis =>
    rw [ofOctets, List.flatMap_cons, List.length_append, length_ofNat, List.length_cons]
    rw [ofOctets] at inductionHypothesis
    omega

/-- Octets are known by their bits. -/
theorem ofOctets_injective : Function.Injective ofOctets := by
  intro first second same
  induction first generalizing second with
  | nil =>
    have sizes := congrArg List.length same
    rw [length_ofOctets, length_ofOctets, List.length_nil] at sizes
    exact (List.length_eq_zero_iff.mp (by omega)).symm
  | cons octet octets inductionHypothesis =>
    cases second with
    | nil =>
      have sizes := congrArg List.length same
      rw [length_ofOctets, length_ofOctets, List.length_nil, List.length_cons] at sizes
      omega
    | cons other others =>
      obtain ⟨sameBits, sameOthers⟩ := List.append_inj same
        ((length_ofNat 8 octet.toNat).trans (length_ofNat 8 other.toNat).symm)
      have sameOctet := congrArg Bits.octet sameBits
      rw [octet_ofNat, octet_ofNat, UInt8.ofNat_toNat, UInt8.ofNat_toNat] at sameOctet
      rw [sameOctet, inductionHypothesis sameOthers]

theorem ofOctets_singleton (octet : UInt8) : ofOctets [octet] = ofNat 8 octet.toNat :=
  List.flatMap_singleton _ _

/-- Octets hold the bits they are put together of, and fewer than eight ones behind them. -/
theorem exists_ofOctets_toOctetsFrom (octets : Octets) (bits : List Bool) :
    ∃ count ≤ 7, ofOctets (toOctetsFrom octets bits) =
      ofOctets octets.reverse ++ bits ++ List.replicate count true := by
  fun_induction toOctetsFrom octets bits with
  | case1 octets bit0 bit1 bit2 bit3 bit4 bit5 bit6 bit7 rest inductionHypothesis =>
    obtain ⟨count, few, read⟩ := inductionHypothesis
    refine ⟨count, few, ?_⟩
    have whole : [bit0, bit1, bit2, bit3, bit4, bit5, bit6, bit7].length ≤ 8 := Nat.le_refl 8
    rw [read, List.reverse_cons, ofOctets_append, ofOctets_singleton, ofNat_octet whole]
    simp
  | case2 octets => exact ⟨0, by simp⟩
  | case3 octets rest notEight occupied =>
    have few : rest.length < 8 := by
      by_contra long
      -- Eight bits would have been put together.
      rcases rest with _ | ⟨bit0, _ | ⟨bit1, _ | ⟨bit2, _ | ⟨bit3, _ | ⟨bit4, _ | ⟨bit5, _ |
        ⟨bit6, _ | ⟨bit7, rest⟩⟩⟩⟩⟩⟩⟩⟩
      case cons.cons.cons.cons.cons.cons.cons.cons => exact notEight _ _ _ _ _ _ _ _ _ rfl
      all_goals exact long (by simp)
    have positive := List.length_pos_iff.mpr occupied
    refine ⟨8 - rest.length, by omega, ?_⟩
    rw [List.reverse_cons, ofOctets_append, ofOctets_singleton, ofNat_octet (Nat.le_of_lt few),
      List.append_assoc]

/-- Bits are read back from octets with fewer than eight ones behind them. -/
theorem exists_ofOctets_toOctets (bits : List Bool) :
    ∃ count ≤ 7, ofOctets (toOctets bits) = bits ++ List.replicate count true :=
  exists_ofOctets_toOctetsFrom [] bits

end WebFetch.Bits
