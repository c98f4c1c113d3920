/-
This file says what octets are written as in the Huffman code: as their codes one after the other,
with ones behind them up to the end of an octet. The codes pass through a number of 64 bits; between
two codes it holds fewer than eight bits, so no code pushes a bit out of it. What is written is read
back, and it is all that is read as these octets without an end of the string.
-/

import WebFetch.Proofs.Bits
import WebFetch.Proofs.Huffman.Language

namespace WebFetch.Hpack.Huffman

/-! ### Packing codes -/

theorem all_codes_small :
    codes.all fun (number, length) => decide (number < 2 ^ length ∧ length ≤ 30) := by
  decide +kernel

/-- A code has at most thirty bits, and its number no more than it has. -/
theorem code_small {octet : UInt8} {number length : Nat}
    (found : codes[octet.toNat]? = some (number, length)) : number < 2 ^ length ∧ length ≤ 30 :=
  of_decide_eq_true (List.all_eq_true.mp all_codes_small _ (List.mem_of_getElem? found))

theorem exists_code (octet : UInt8) :
    ∃ number length, codes[octet.toNat]? = some (number, length) := by
  have bound : octet.toNat < codes.length := by
    rw [length_codes]
    exact Nat.lt_succ_of_lt octet.toNat_lt
  exact ⟨_, _, List.getElem?_eq_getElem bound⟩

theorem toNat_ofNat_of_lt_64 {value : Nat} (small : value < 64) :
    (UInt64.ofNat value).toNat % 64 = value := by
  rw [UInt64.toNat_ofNat_of_lt' (Nat.lt_trans small (by decide)), Nat.mod_eq_of_lt small]

/-- A shift makes room for further bits, as long as all of them have room in 64 bits. -/
theorem toNat_shiftLeft_or {left : UInt64} {count length : Nat} (bits : UInt64)
    (leftSmall : left.toNat < 2 ^ count) (small : bits.toNat < 2 ^ length)
    (few : count + length < 64) :
    (left <<< UInt64.ofNat length ||| bits).toNat = left.toNat * 2 ^ length + bits.toNat := by
  have room : left.toNat * 2 ^ length < 2 ^ 64 :=
    calc left.toNat * 2 ^ length < 2 ^ count * 2 ^ length :=
          Nat.mul_lt_mul_of_pos_right leftSmall (Nat.two_pow_pos length)
      _ = 2 ^ (count + length) := (Nat.pow_add 2 count length).symm
      _ ≤ 2 ^ 64 := Nat.pow_le_pow_right (by decide) (Nat.le_of_lt few)
  rw [UInt64.toNat_or, UInt64.toNat_shiftLeft, toNat_ofNat_of_lt_64 (by omega),
    Nat.shiftLeft_eq, Nat.mod_eq_of_lt room, ← Nat.shiftLeft_eq,
    Nat.shiftLeft_add_eq_or_of_lt small]

/-- The number of `count` ones. -/
theorem toNat_ones {count : Nat} (few : count < 64) :
    ((1 <<< UInt64.ofNat count) - 1 : UInt64).toNat = 2 ^ count - 1 := by
  have power : (1 <<< UInt64.ofNat count : UInt64).toNat = 2 ^ count := by
    rw [UInt64.toNat_shiftLeft, toNat_ofNat_of_lt_64 few, UInt64.toNat_one, Nat.one_shiftLeft,
      Nat.mod_eq_of_lt (Nat.pow_lt_pow_right (by decide) few)]
  have positive : (1 : UInt64) ≤ 1 <<< UInt64.ofNat count := by
    rw [UInt64.le_iff_toNat_le, power]
    exact Nat.one_le_two_pow
  rw [UInt64.toNat_sub_of_le _ _ positive, power]
  rfl

namespace Packing

/-- Octets are taken off the front of bits until fewer than eight are left. -/
theorem takeWhole_eq (bits : UInt64) {count : Nat} (few : count < 64) (whole : Octets) :
    (takeWhole bits count whole).2 < 8 ∧ ∀ future : List Bool,
      Bits.toOctetsFrom (takeWhole bits count whole).1
          (Bits.ofNat (takeWhole bits count whole).2 bits.toNat ++ future) =
        Bits.toOctetsFrom whole (Bits.ofNat count bits.toNat ++ future) := by
  fun_induction takeWhole bits count whole with
  | case1 count whole inductionHypothesis =>
    obtain ⟨fewer, same⟩ := inductionHypothesis (by omega)
    refine ⟨fewer, fun future => ?_⟩
    have size : count.succ.succ.succ.succ.succ.succ.succ.succ = 8 + count := Nat.add_comm count 8
    have shifted : (bits >>> UInt64.ofNat count).toUInt8 =
        UInt8.ofNat (bits.toNat / 2 ^ count) := by
      rw [← UInt8.toNat_inj, UInt64.toNat_toUInt8, UInt64.toNat_shiftRight,
        toNat_ofNat_of_lt_64 (by omega), Nat.shiftRight_eq_div_pow, UInt8.toNat_ofNat']
    rw [same, shifted, size, Bits.ofNat_add, List.append_assoc, Bits.toOctetsFrom_ofNat]
  | case2 count whole none =>
    have fewer : count < 8 := Nat.lt_of_not_le fun enough =>
      none (count - 8) (Nat.sub_add_cancel enough).symm
    exact ⟨fewer, fun _ => rfl⟩

/-- Whether a packing holds bits, fewer than eight of them outside its octets. -/
structure Holds (packing : Packing) (bits : List Bool) : Prop where
  count : packing.count < 8
  left : packing.left.toNat < 2 ^ packing.count
  octets : ∀ future, Bits.toOctetsFrom packing.whole
    (Bits.ofNat packing.count packing.left.toNat ++ future) = Bits.toOctets (bits ++ future)

theorem holds_empty : empty.Holds [] :=
  ⟨by decide, by decide, fun _ => rfl⟩

/-- A code comes after the bits that a packing holds. -/
theorem Holds.push {packing : Packing} {bits : List Bool} {number length : Nat}
    (holds : packing.Holds bits) (small : number < 2 ^ length) (short : length ≤ 30) :
    (packing.push number length).Holds (bits ++ Bits.ofNat length number) := by
  have few : packing.count + length < 64 := by
    have bound := holds.count
    omega
  have value : (UInt64.ofNat number).toNat = number := by
    have word : 2 ^ length ≤ 2 ^ 64 := Nat.pow_le_pow_right (by decide) (by omega)
    exact UInt64.toNat_ofNat_of_lt' (Nat.lt_of_lt_of_le small word)
  have joined := toNat_shiftLeft_or (UInt64.ofNat number) holds.left
    (by rw [value]; exact small) few
  rw [value] at joined
  generalize shifted : packing.left <<< UInt64.ofNat length ||| UInt64.ofNat number = together
    at joined
  obtain ⟨fewer, same⟩ := takeWhole_eq together few packing.whole
  have pushed : packing.push number length =
      ⟨(takeWhole together (packing.count + length) packing.whole).1,
        together &&& ((1 <<< UInt64.ofNat
          (takeWhole together (packing.count + length) packing.whole).2) - 1),
        (takeWhole together (packing.count + length) packing.whole).2⟩ := by
    rw [Packing.push, shifted]
  rw [pushed]
  generalize takeWhole together (packing.count + length) packing.whole = taken at fewer same
  obtain ⟨whole, count⟩ := taken
  have masked : (together &&& ((1 <<< UInt64.ofNat count) - 1)).toNat =
      together.toNat % 2 ^ count := by
    rw [UInt64.toNat_and, toNat_ones (by omega), Nat.and_two_pow_sub_one_eq_mod]
  refine ⟨fewer, ?_, fun future => ?_⟩
  · show (together &&& ((1 <<< UInt64.ofNat count) - 1)).toNat < 2 ^ count
    rw [masked]
    exact Nat.mod_lt _ (Nat.two_pow_pos count)
  · show Bits.toOctetsFrom whole (Bits.ofNat count
      (together &&& ((1 <<< UInt64.ofNat count) - 1)).toNat ++ future) = _
    rw [masked, Bits.ofNat_mod, same, joined, Bits.ofNat_shift_add small, List.append_assoc,
      holds.octets, List.append_assoc]

/-- The codes of octets come after the bits that a packing holds. -/
theorem Holds.foldl {packing : Packing} {bits : List Bool} (holds : packing.Holds bits)
    (octets : Octets) : (octets.foldl pushOctet packing).Holds (bits ++ encodedBits octets) := by
  induction octets generalizing packing bits with
  | nil => rwa [encodedBits, List.flatMap_nil, List.append_nil]
  | cons octet octets inductionHypothesis =>
    obtain ⟨number, length, found⟩ := exists_code octet
    obtain ⟨small, short⟩ := code_small found
    have code : Huffman.bits octet.toNat = Bits.ofNat length number := by rw [Huffman.bits, found]
    have pushed : packing.pushOctet octet = packing.push number length := by rw [pushOctet, found]
    rw [encodedBits_cons, ← List.append_assoc, code, List.foldl_cons, pushed]
    exact inductionHypothesis (holds.push small short)

/-- What is left over is filled up with ones. -/
theorem Holds.finish {packing : Packing} {bits : List Bool} (holds : packing.Holds bits) :
    packing.finish = Bits.toOctets bits := by
  have whole := holds.octets []
  rw [List.append_nil, List.append_nil] at whole
  rw [← whole, Packing.finish]
  by_cases nothing : packing.count = 0
  · rw [if_pos nothing, nothing]
    rfl
  · have bound := holds.count
    have last := toNat_shiftLeft_or ((1 <<< UInt64.ofNat (8 - packing.count)) - 1) holds.left
      (by rw [toNat_ones (by omega)]; exact Nat.sub_lt (Nat.two_pow_pos _) Nat.one_pos)
      (by omega : packing.count + (8 - packing.count) < 64)
    rw [toNat_ones (by omega)] at last
    rw [if_neg nothing, Bits.toOctetsFrom_of_short _ (by rw [Bits.length_ofNat]; omega)
      (by rw [Bits.length_ofNat]; omega)]
    refine congrArg (fun octet => (octet :: packing.whole).reverse) ?_
    rw [← UInt8.toNat_inj, UInt64.toNat_toUInt8, last, Bits.octet, Bits.length_ofNat,
      Bits.toNat_append, Bits.toNat_ofNat, Nat.mod_eq_of_lt holds.left, List.length_replicate,
      Bits.toNat_replicate, UInt8.toNat_ofNat']

end Packing

/-- Octets are written as their codes, filled up with ones. -/
theorem encode_eq (octets : Octets) : encode octets = Bits.toOctets (encodedBits octets) :=
  (Packing.holds_empty.foldl octets).finish

/-! ### Writing and reading -/

theorem exists_ofOctets_encode (octets : Octets) :
    ∃ count ≤ 7, Bits.ofOctets (encode octets) =
      encodedBits octets ++ List.replicate count true := by
  rw [encode_eq]
  exact Bits.exists_ofOctets_toOctets (encodedBits octets)

/-- What octets are written as spells them. -/
theorem spells_encode (octets : Octets) : Spells (Bits.ofOctets (encode octets)) octets := by
  obtain ⟨count, few, read⟩ := exists_ofOctets_encode octets
  refine Or.inl ⟨List.replicate count true, read, ?_, ?_⟩
  · rwa [List.length_replicate]
  · exact fun bit member => List.eq_of_mem_replicate member

/-- Octets in the code are read back. -/
theorem decode_encode (octets : Octets) : decode (encode octets) = .ok octets := by
  rw [decode, decodeFrom_of_spells (spells_encode octets)]
  rfl

/-- Octets that are read are spelt by the bits. -/
theorem spells_of_decode {coded octets : Octets} (read : decode coded = .ok octets) :
    Spells (Bits.ofOctets coded) octets := by
  rw [decode] at read
  rcases decodeFrom_cases (Bits.ofOctets coded) [] with ⟨others, spelt, found⟩ | refused
  · rw [found] at read
    exact Except.ok.inj read ▸ spelt
  · rw [refused] at read
    cases read

theorem length_encodedBits (octets : Octets) :
    (encodedBits octets).length = octets.foldl (fun total octet => total + codeLength octet) 0 := by
  have total (start : Nat) :
      octets.foldl (fun total octet => total + codeLength octet) start =
        start + (encodedBits octets).length := by
    induction octets generalizing start with
    | nil => rfl
    | cons octet octets inductionHypothesis =>
      obtain ⟨number, length, found⟩ := exists_code octet
      have size : (bits octet.toNat).length = codeLength octet := by
        rw [bits, codeLength, found]
        exact Bits.length_ofNat length number
      rw [List.foldl_cons, inductionHypothesis, encodedBits_cons, List.length_append, size,
        Nat.add_assoc]
  rw [total, Nat.zero_add]

/-- Octets are written in as many octets as is foretold. -/
theorem length_encode (octets : Octets) : (encode octets).length = encodedLength octets := by
  obtain ⟨count, few, read⟩ := exists_ofOctets_encode octets
  have sizes := congrArg List.length read
  rw [Bits.length_ofOctets, List.length_append, List.length_replicate, length_encodedBits] at sizes
  rw [encodedLength]
  omega

/-- Octets of which the codes and a few ones are read are the ones that these are written as. -/
theorem eq_encode_of_padded {coded octets : Octets} {padding : List Bool}
    (read : Bits.ofOctets coded = encodedBits octets ++ padding) (few : padding.length ≤ 7)
    (ones : ∀ bit ∈ padding, bit = true) : coded = encode octets := by
  obtain ⟨count, countFew, written⟩ := exists_ofOctets_encode octets
  have same : padding = List.replicate padding.length true :=
    List.eq_replicate_iff.mpr ⟨rfl, ones⟩
  -- Both are whole octets with the same codes, so the ones behind them are as many.
  have readSize := congrArg List.length read
  have writtenSize := congrArg List.length written
  rw [Bits.length_ofOctets, List.length_append] at readSize writtenSize
  rw [List.length_replicate] at writtenSize
  have equal : padding.length = count := by omega
  refine Bits.ofOctets_injective ?_
  rw [read, written, same, equal]

/-- Whether bits are the codes of octets and then of the end of a string, before anything else. -/
def MeetsEnd (input : List Bool) : Prop :=
  ∃ octets rest, input = encodedBits octets ++ bits endOfString ++ rest

/-- What octets are written as has no end of a string in it. -/
theorem not_meetsEnd_encode (octets : Octets) : ¬ MeetsEnd (Bits.ofOctets (encode octets)) := by
  rintro ⟨others, rest, met⟩
  have same : others = octets := by
    have first := decodeFrom_of_spells (Or.inr ⟨rest, met⟩) []
    rw [decodeFrom_of_spells (spells_encode octets)] at first
    exact (Except.ok.inj (Option.some.inj first)).symm
  obtain ⟨count, few, written⟩ := exists_ofOctets_encode octets
  -- The code of the end would have to be among the few ones behind the codes.
  have sizes := congrArg List.length (written.symm.trans (same ▸ met))
  have long : (bits endOfString).length = 30 := by decide +kernel
  rw [List.append_assoc, List.length_append, List.length_append, List.length_append, long,
    List.length_replicate] at sizes
  omega

/-- Octets are written as their codes in order, with at most seven ones behind them, in as many
octets as is foretold, and are read back. Nothing else is read as these octets without meeting the
end of a string, so of two strings that are read alike and do not meet it, both are the same. -/
theorem decode_eq_ok_iff_eq_encode (octets : Octets) :
    (∃ count ≤ 7, Bits.ofOctets (encode octets) =
      encodedBits octets ++ List.replicate count true) ∧
    (encode octets).length = encodedLength octets ∧
    decode (encode octets) = .ok octets ∧
    (∀ coded, decode coded = .ok octets ∧ ¬ MeetsEnd (Bits.ofOctets coded) ↔
      coded = encode octets) ∧
    ∀ first second, decode first = .ok octets → ¬ MeetsEnd (Bits.ofOctets first) →
      decode second = .ok octets → ¬ MeetsEnd (Bits.ofOctets second) → first = second := by
  have unique {coded : Octets} (read : decode coded = .ok octets)
      (endless : ¬ MeetsEnd (Bits.ofOctets coded)) : coded = encode octets := by
    rcases spells_of_decode read with ⟨padding, spelt, few, ones⟩ | ⟨rest, spelt⟩
    · exact eq_encode_of_padded spelt few ones
    · exact absurd ⟨octets, rest, spelt⟩ endless
  refine ⟨exists_ofOctets_encode octets, length_encode octets, decode_encode octets,
    fun coded => ⟨fun ⟨read, endless⟩ => unique read endless, ?_⟩,
    fun first second firstRead firstEndless secondRead secondEndless => ?_⟩
  · rintro rfl
    exact ⟨decode_encode octets, not_meetsEnd_encode octets⟩
  · rw [unique firstRead firstEndless, unique secondRead secondEndless]

/-- A digit in the code, and then the end of a string and more. -/
def endedDigit : Octets := [0x07, 0xff, 0xff, 0xff, 0xff]

theorem decode_eq_ok_iff_eq_encode_endedDigit :
    encode [0x30] = [0x07] ∧ decode [0x07] = .ok [0x30] ∧ ¬ MeetsEnd (Bits.ofOctets [0x07]) ∧
      decode endedDigit = .ok [0x30] ∧ MeetsEnd (Bits.ofOctets endedDigit) := by
  have written : encode [0x30] = [0x07] := by decide +kernel
  have ended : decode endedDigit = .ok [0x30] := by
    have spelt : Spells (Bits.ofOctets endedDigit) [0x30] :=
      Or.inr ⟨List.replicate 5 true, by decide +kernel⟩
    rw [decode, decodeFrom_of_spells spelt]
    rfl
  obtain ⟨_, _, _, characterised, _⟩ := decode_eq_ok_iff_eq_encode [0x30]
  obtain ⟨read, endless⟩ := (characterised [0x07]).mpr written.symm
  refine ⟨written, read, endless, ended, ?_⟩
  by_contra notMet
  exact absurd ((characterised endedDigit).mp ⟨ended, notMet⟩) (by rw [written]; decide)

end WebFetch.Hpack.Huffman
