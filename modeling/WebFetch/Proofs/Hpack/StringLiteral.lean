/-
This file proves that strings are read back as they were written, in the Huffman code or as they
are.
-/

import WebFetch.Hpack.StringLiteral
import WebFetch.Proofs.Hpack.Integer
import WebFetch.Proofs.Huffman.Encoding

namespace WebFetch.Hpack

/-- What is taken from the front of octets is what was put there. -/
theorem takeOctets_append (size : Nat) (taken rest : Octets) :
    takeOctets size taken.length (taken ++ rest) = .ok (taken, rest) := by
  rw [takeOctets, List.take_left, List.drop_left]
  exact if_neg (Nat.lt_irrefl _)

namespace StringLiteral

/-- The octets that stand for a string after its length. -/
def raw (huffman : Bool) (octets : Octets) : Octets :=
  if huffman then Huffman.encode octets else octets

/-- The octet before the length of a string. -/
def pattern (huffman : Bool) : UInt8 :=
  if huffman then 0x80 else 0x00

theorem encode_eq (huffman : Bool) (octets : Octets) :
    encode huffman octets =
      Integer.encode 7 (pattern huffman) (raw huffman octets).length ++ raw huffman octets := by
  cases huffman <;> rfl

theorem length_raw_le (huffman : Bool) (octets : Octets) :
    (raw huffman octets).length ≤ (encode huffman octets).length := by
  rw [encode_eq, List.length_append]
  exact Nat.le_add_left _ _

theorem pattern_free (huffman : Bool) : (pattern huffman).toNat % 2 ^ 7 = 0 := by
  cases huffman <;> rfl

/-- The first octet says whether a string is in the Huffman code. -/
theorem isHuffman_pattern {huffman : Bool} {first : Nat} (small : first < 2 ^ 7) :
    isHuffman (pattern huffman ||| UInt8.ofNat first) = huffman := by
  have value := Integer.toNat_or_ofNat (by decide : 7 ≤ 8) (pattern_free huffman) small
  have marked : isHuffman (pattern huffman ||| UInt8.ofNat first) =
      decide (128 ≤ (pattern huffman).toNat + first) := by
    rw [← value]
    exact decide_eq_decide.mpr UInt8.le_iff_toNat_le
  rw [marked]
  cases huffman with
  | false => exact decide_eq_false (Nat.not_le_of_lt (by simpa [pattern] using small))
  | true => exact decide_eq_true (Nat.le_add_right 128 first)

theorem unpack_raw (huffman : Bool) (octets : Octets) :
    unpack huffman (raw huffman octets) = .ok octets := by
  cases huffman with
  | false => rfl
  | true =>
    show (Huffman.decode (Huffman.encode octets)).mapError HpackError.huffman = _
    rw [Huffman.decode_encode]
    rfl

/-- Strings are read back as they were written. -/
theorem decode_encode {size : Nat} {huffman : Bool} {octets : Octets} (rest : Octets)
    (small : (encode huffman octets).length < wordLimit) :
    decode size (encode huffman octets ++ rest) = .ok (octets, rest) := by
  have rawSmall := Nat.lt_of_le_of_lt (length_raw_le huffman octets) small
  rw [encode_eq, List.append_assoc]
  obtain ⟨first, later, firstSmall, spelt⟩ :=
    Integer.exists_encode_eq_cons 7 (pattern huffman) (raw huffman octets).length
  have read : Integer.decode size 7
      (Integer.encode 7 (pattern huffman) (raw huffman octets).length ++
        (raw huffman octets ++ rest)) =
      .ok ((raw huffman octets).length, raw huffman octets ++ rest) :=
    Integer.decode_encode _ (by decide) (pattern_free huffman) rawSmall
  rw [spelt] at read ⊢
  rw [List.cons_append] at read ⊢
  rw [decode, read]
  simp only [bind, Except.bind, takeOctets_append]
  rw [isHuffman_pattern firstSmall, unpack_raw]
  rfl

end StringLiteral

end WebFetch.Hpack
