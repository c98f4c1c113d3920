/-
This file holds the integers of header blocks. The last bits of an octet hold a small value; if
they are all ones, octets of seven bits each follow, the least significant first, of which all but
the last have their first bit set. Values have 64 bits, and so has the shift of the last octet.
-/

import WebFetch.Hpack.Error

namespace WebFetch.Hpack.Integer

/-- The largest value of the bits that begin an integer. It says that more octets follow. -/
def mask (bits : Nat) : Nat := 1 <<< bits - 1

/-! ### Reading -/

/-- Adds the octets that follow to a value. The block has `size` octets. -/
def extend (size value shift : Nat) : Octets → Except HpackError (Nat × Octets)
  | [] => .error (missing size 1 [])
  | octet :: rest =>
    let value := value + (octet.toNat % 128) <<< shift
    if 64 ≤ shift ∨ wordLimit ≤ value then .error .integerOverflow
    else if octet < 128 then .ok (value, rest)
    else extend size value (shift + 7) rest

/-- The integer that begins with the last `bits` bits of the first octet left of a block of `size`,
and the octets that follow it. -/
def decode (size bits : Nat) : Octets → Except HpackError (Nat × Octets)
  | [] => .error (missing size 1 [])
  | octet :: rest =>
    let value := octet.toNat % (1 <<< bits)
    if value < mask bits then .ok (value, rest) else extend size value 0 rest

/-- The integer at an offset of octets, and the number of octets it takes. -/
def decodeAt (octets : Octets) (offset bits : Nat) : Except HpackError (Nat × Nat) := do
  let _ ← ((Window.mk octets).bytes offset 1).mapError .range
  let (value, rest) ← decode octets.length bits (octets.drop offset)
  return (value, octets.length - offset - rest.length)

theorem length_lt_of_extend {size value shift result : Nat} {octets rest : Octets}
    (found : extend size value shift octets = .ok (result, rest)) :
    rest.length < octets.length := by
  induction octets generalizing value shift with
  | nil => simp [extend] at found
  | cons octet octets inductionHypothesis =>
    rw [extend] at found
    split at found
    · simp at found
    · split at found
      · cases found
        exact Nat.lt_succ_self _
      · exact Nat.lt_succ_of_lt (inductionHypothesis found)

/-- Reading an integer uses up at least one octet. -/
theorem length_lt_of_decode {size bits result : Nat} {octets rest : Octets}
    (found : decode size bits octets = .ok (result, rest)) : rest.length < octets.length := by
  cases octets with
  | nil => simp [decode] at found
  | cons octet octets =>
    rw [decode] at found
    split at found
    · cases found
      exact Nat.lt_succ_self _
    · exact Nat.lt_succ_of_lt (length_lt_of_extend found)

/-! ### Writing -/

/-- A value in octets of seven bits, the least significant first. -/
def groups (value : Nat) : Octets :=
  if value < 128 then [UInt8.ofNat value]
  else UInt8.ofNat (value % 128 + 128) :: groups (value / 128)

/-- An integer that begins in the last `bits` bits of an octet, which holds a pattern in its other
bits. -/
def encode (bits : Nat) (pattern : UInt8) (value : Nat) : Octets :=
  if value < mask bits then [pattern ||| UInt8.ofNat value]
  else (pattern ||| UInt8.ofNat (mask bits)) :: groups (value - mask bits)

end WebFetch.Hpack.Integer
