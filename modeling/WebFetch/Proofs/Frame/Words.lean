/-
This file is about the numbers of four octets in the payloads of frames. A number is read if its
octets lie in the payload, and else their offset, their number and the length of the payload are
reported. Where a number has 31 bits, the first bit of its octets is left out.
-/

import Mathlib.Data.Nat.Bitwise
import WebFetch.Frame.Payload
import WebFetch.Proofs.Octets.Window

namespace WebFetch.Frame

/-! ### Numbers -/

/-- The number that the four octets at an offset denote. -/
def numberAt (offset : Nat) (payload : Octets) : Nat :=
  Octets.toNat ((payload.drop offset).take 4)

theorem word_of_le {offset : Nat} {payload : Octets} (inside : offset + 4 ≤ payload.length)
    (representable : offset + 4 < wordLimit) :
    word payload offset = .ok (UInt32.ofNat (numberAt offset payload)) := by
  have found : (Window.mk payload).bytes offset 4 = .ok ((payload.drop offset).take 4) :=
    Window.bytes_of_le inside representable
  rw [word, (Window.shows_of_bytes found).number]
  rfl

theorem word_of_lt {offset : Nat} {payload : Octets} (outside : payload.length < offset + 4)
    (representable : offset + 4 < wordLimit) :
    word payload offset = .error (.range (.outOfRange offset 4 payload.length)) := by
  have refused : (Window.mk payload).bytes offset 4 =
      .error (.outOfRange offset 4 payload.length) :=
    Window.bytes_of_lt outside representable
  rw [word, (Window.refuses_of_bytes refused).number]

/-- The first bit of a number of 32 bits is left out. -/
theorem ofNat_and_maxStream {value : Nat} (small : value < wordLimit32) :
    UInt32.ofNat value &&& maxStream = UInt32.ofNat (value % wordLimit31) := by
  have mask : maxStream.toNat = 2 ^ 31 - 1 := by decide
  have short : value % wordLimit31 < wordLimit32 := Nat.lt_of_le_of_lt (Nat.mod_le _ _) small
  rw [← UInt32.toNat_inj, UInt32.toNat_and, mask, UInt32.toNat_ofNat_of_lt' small,
    UInt32.toNat_ofNat_of_lt' short, Nat.and_two_pow_sub_one_eq_mod]
  rfl

theorem numberAt_lt (offset : Nat) (payload : Octets) : numberAt offset payload < wordLimit32 := by
  refine Nat.lt_of_lt_of_le (Octets.toNat_lt _) ?_
  exact Nat.pow_le_pow_right (by decide) (List.length_take_le 4 _)

theorem word31_of_le {offset : Nat} {payload : Octets} (inside : offset + 4 ≤ payload.length)
    (representable : offset + 4 < wordLimit) :
    word31 payload offset = .ok (UInt32.ofNat (numberAt offset payload % wordLimit31)) := by
  rw [word31, word_of_le inside representable]
  exact congrArg Except.ok (ofNat_and_maxStream (numberAt_lt offset payload))

theorem word31_of_lt {offset : Nat} {payload : Octets} (outside : payload.length < offset + 4)
    (representable : offset + 4 < wordLimit) :
    word31 payload offset = .error (.range (.outOfRange offset 4 payload.length)) := by
  rw [word31, word_of_lt outside representable]
  rfl

/-! ### Payloads -/

theorem parseRstStream_of_le {payload : Octets} (long : 4 ≤ payload.length) :
    parseRstStream payload = .ok ⟨UInt32.ofNat (numberAt 0 payload)⟩ := by
  rw [parseRstStream, word_of_le long (by decide)]
  rfl

theorem parseRstStream_of_lt {payload : Octets} (short : payload.length < 4) :
    parseRstStream payload = .error (.range (.outOfRange 0 4 payload.length)) := by
  rw [parseRstStream, word_of_lt short (by decide)]
  rfl

theorem parseGoAway_of_le {payload : Octets} (long : 8 ≤ payload.length) :
    parseGoAway payload = .ok (UInt32.ofNat (numberAt 0 payload % wordLimit31),
      ⟨UInt32.ofNat (numberAt 4 payload)⟩) := by
  rw [parseGoAway, word31_of_le (by omega) (by decide), word_of_le long (by decide)]
  rfl

/-- A payload that is too short lacks the code, or already the last stream. -/
theorem parseGoAway_of_lt {payload : Octets} (short : payload.length < 8) :
    parseGoAway payload =
      .error (.range (.outOfRange (if payload.length < 4 then 0 else 4) 4 payload.length)) := by
  by_cases shorter : payload.length < 4
  · rw [parseGoAway, word31_of_lt shorter (by decide), if_pos shorter]
    rfl
  · rw [parseGoAway, word31_of_le (Nat.le_of_not_lt shorter) (by decide),
      word_of_lt short (by decide), if_neg shorter]
    rfl

/-- An increment of 31 bits is read back. -/
theorem parseWindowUpdate_ofNat {increment : Nat} (small : increment < wordLimit31) :
    parseWindowUpdate (Octets.ofNat 4 increment) = .ok (UInt32.ofNat increment) := by
  have length : (Octets.ofNat 4 increment).length = 4 := Octets.length_ofNat 4 _
  have number : numberAt 0 (Octets.ofNat 4 increment) = increment := by
    rw [numberAt, List.drop_zero, List.take_of_length_le (Nat.le_of_eq length)]
    exact Octets.toNat_ofNat_of_lt (Nat.lt_trans small (by decide))
  rw [parseWindowUpdate, word31_of_le (Nat.le_of_eq length.symm) (by decide), number,
    Nat.mod_eq_of_lt small]

end WebFetch.Frame
