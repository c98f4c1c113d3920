/-
This file proves that octets are read as a text only if they are what the text is written as. An
invalid piece stays among the pieces, so the octets of a valid reading are the characters' own: their
first octet tells how many follow and in which range, and no other character has the same octets.
-/

import WebFetch.Proofs.Text.Utf8

namespace WebFetch.Utf8

namespace Reader

/-! ### Valid readings -/

/-- Whether octets can be read on from a state without an invalid piece. -/
def Valid (reader : Reader) (octets : Octets) : Prop :=
  ∀ piece ∈ (octets.foldl step reader).finish, piece.isSome = true

theorem mem_finish {reader : Reader} {piece : Option Char} (member : piece ∈ reader.pieces) :
    piece ∈ reader.finish := by
  unfold finish
  split
  · exact List.mem_reverse.mpr member
  · exact List.mem_reverse.mpr (List.mem_cons_of_mem _ member)

theorem mem_begin {pieces : List (Option Char)} {piece : Option Char} (octet : UInt8)
    (member : piece ∈ pieces) : piece ∈ (begin pieces octet).pieces := by
  unfold begin
  repeat' split
  all_goals first | exact member | exact List.mem_cons_of_mem _ member

theorem mem_step {reader : Reader} {piece : Option Char} (octet : UInt8)
    (member : piece ∈ reader.pieces) : piece ∈ (step reader octet).pieces := by
  unfold step
  split
  · exact mem_begin octet member
  · split
    · dsimp only
      split
      · exact List.mem_cons_of_mem _ member
      · exact member
    · exact mem_begin octet (List.mem_cons_of_mem _ member)

/-- Nothing valid is read behind an invalid piece. -/
theorem not_valid_of_none {reader : Reader} (octets : Octets) (invalid : none ∈ reader.pieces) :
    ¬ Valid reader octets := by
  intro valid
  have kept : none ∈ (octets.foldl step reader).pieces := by
    clear valid
    induction octets generalizing reader with
    | nil => exact invalid
    | cons octet octets inductionHypothesis => exact inductionHypothesis (mem_step octet invalid)
  cases valid none (mem_finish kept)

/-- The state after an octet that continues a character. -/
def afterTrail (needed bits : Nat) (pieces : List (Option Char)) (octet : UInt8) : Reader :=
  if needed = 0 then between (some (Char.ofNat (bits * 64 + octet.toNat % 64)) :: pieces)
  else ⟨needed, 0x80, 0xbf, bits * 64 + octet.toNat % 64, pieces⟩

/-- A character that needs more octets is continued by one in range. -/
theorem exists_trail_of_valid {needed : Nat} {lowest highest : UInt8} {bits : Nat}
    {pieces : List (Option Char)} {octets : Octets}
    (valid : Valid ⟨needed + 1, lowest, highest, bits, pieces⟩ octets) :
    ∃ octet rest, octets = octet :: rest ∧ lowest.toNat ≤ octet.toNat ∧
      octet.toNat ≤ highest.toNat ∧ Valid (afterTrail needed bits pieces octet) rest := by
  match octets with
  | [] => cases valid none (List.mem_reverse.mpr List.mem_cons_self)
  | octet :: rest =>
    have valid : Valid (step ⟨needed + 1, lowest, highest, bits, pieces⟩ octet) rest := valid
    rw [step, if_neg (Nat.succ_ne_zero needed)] at valid
    split at valid
    · rename_i inRange
      refine ⟨octet, rest, rfl, UInt8.le_iff_toNat_le.mp inRange.1,
        UInt8.le_iff_toNat_le.mp inRange.2, ?_⟩
      simpa only [afterTrail, Nat.add_eq_right, Nat.add_sub_cancel] using valid
    · exact absurd valid (not_valid_of_none rest (mem_begin octet List.mem_cons_self))

/-- Two octets continue a character that needs two, the second of them in the widest range. -/
theorem exists_two_trails_of_valid {lowest highest : UInt8} {bits : Nat}
    {pieces : List (Option Char)} {octets : Octets}
    (valid : Valid ⟨2, lowest, highest, bits, pieces⟩ octets) :
    ∃ second third rest, octets = second :: third :: rest ∧
      (lowest.toNat ≤ second.toNat ∧ second.toNat ≤ highest.toNat) ∧
      (0x80 ≤ third.toNat ∧ third.toNat ≤ 0xbf) := by
  obtain ⟨second, later, rfl, low, high, valid⟩ := exists_trail_of_valid valid
  have valid : Valid ⟨1, 0x80, 0xbf, bits * 64 + second.toNat % 64, pieces⟩ later := valid
  obtain ⟨third, rest, rfl, thirdLow, thirdHigh, _⟩ := exists_trail_of_valid valid
  exact ⟨second, third, rest, rfl, ⟨low, high⟩, thirdLow, thirdHigh⟩

/-- Three octets continue a character that needs three, the later ones in the widest range. -/
theorem exists_three_trails_of_valid {lowest highest : UInt8} {bits : Nat}
    {pieces : List (Option Char)} {octets : Octets}
    (valid : Valid ⟨3, lowest, highest, bits, pieces⟩ octets) :
    ∃ second third fourth rest, octets = second :: third :: fourth :: rest ∧
      (lowest.toNat ≤ second.toNat ∧ second.toNat ≤ highest.toNat) ∧
      (0x80 ≤ third.toNat ∧ third.toNat ≤ 0xbf) ∧
      (0x80 ≤ fourth.toNat ∧ fourth.toNat ≤ 0xbf) := by
  obtain ⟨second, later, rfl, low, high, valid⟩ := exists_trail_of_valid valid
  have valid : Valid ⟨2, 0x80, 0xbf, bits * 64 + second.toNat % 64, pieces⟩ later := valid
  obtain ⟨third, fourth, rest, rfl, thirdRange, fourthRange⟩ := exists_two_trails_of_valid valid
  exact ⟨second, third, fourth, rest, rfl, ⟨low, high⟩, thirdRange, fourthRange⟩

end Reader

/-! ### The octets of a character -/

theorem toNat_ofNat_of_scalar {code : Nat}
    (scalar : code < 0xd800 ∨ 0xdfff < code ∧ code < 0x110000) :
    (Char.ofNat code).toNat = code := by
  rw [Char.ofNat, dif_pos scalar]
  rfl

theorem ofNat_eq_of_toNat {value : Nat} (octet : UInt8) (same : value = octet.toNat) :
    UInt8.ofNat value = octet := by
  rw [same, UInt8.ofNat_toNat]

theorem encodeCharacter_ne_nil (character : Char) : encodeCharacter character ≠ [] := by
  unfold encodeCharacter
  dsimp only
  repeat' split
  all_goals exact List.cons_ne_nil _ _

/-- Two octets in range are those of the character that they make. -/
theorem encodeCharacter_two {first second : UInt8}
    (range : 0xc2 ≤ first.toNat ∧ first.toNat ≤ 0xdf)
    (next : 0x80 ≤ second.toNat ∧ second.toNat ≤ 0xbf) :
    encodeCharacter (Char.ofNat (first.toNat % 32 * 64 + second.toNat % 64)) =
      [first, second] := by
  generalize found : first.toNat % 32 * 64 + second.toNat % 64 = code
  have number := toNat_ofNat_of_scalar (Or.inl (by omega : code < 0xd800))
  simp only [encodeCharacter, number]
  rw [if_neg (by omega), if_pos (by omega), ofNat_eq_of_toNat first (by omega),
    ofNat_eq_of_toNat second (by omega)]

/-- Three octets in range are those of the character that they make, which is no surrogate. -/
theorem encodeCharacter_three {first second third : UInt8}
    (range : 0xe0 ≤ first.toNat ∧ first.toNat ≤ 0xef)
    (next : 0x80 ≤ second.toNat ∧ second.toNat ≤ 0xbf)
    (last : 0x80 ≤ third.toNat ∧ third.toNat ≤ 0xbf)
    (long : first.toNat = 0xe0 → 0xa0 ≤ second.toNat)
    (noSurrogate : first.toNat = 0xed → second.toNat ≤ 0x9f) :
    encodeCharacter (Char.ofNat ((first.toNat % 16 * 64 + second.toNat % 64) * 64 +
      third.toNat % 64)) = [first, second, third] := by
  generalize found : (first.toNat % 16 * 64 + second.toNat % 64) * 64 + third.toNat % 64 = code
  have number := toNat_ofNat_of_scalar (by omega : code < 0xd800 ∨ 0xdfff < code ∧ code < 0x110000)
  simp only [encodeCharacter, number]
  rw [if_neg (by omega), if_neg (by omega), if_pos (by omega),
    ofNat_eq_of_toNat first (by omega), ofNat_eq_of_toNat second (by omega),
    ofNat_eq_of_toNat third (by omega)]

/-- Four octets in range are those of the character that they make. -/
theorem encodeCharacter_four {first second third fourth : UInt8}
    (range : 0xf0 ≤ first.toNat ∧ first.toNat ≤ 0xf4)
    (next : 0x80 ≤ second.toNat ∧ second.toNat ≤ 0xbf)
    (later : 0x80 ≤ third.toNat ∧ third.toNat ≤ 0xbf)
    (last : 0x80 ≤ fourth.toNat ∧ fourth.toNat ≤ 0xbf)
    (long : first.toNat = 0xf0 → 0x90 ≤ second.toNat)
    (small : first.toNat = 0xf4 → second.toNat ≤ 0x8f) :
    encodeCharacter (Char.ofNat (((first.toNat % 8 * 64 + second.toNat % 64) * 64 +
      third.toNat % 64) * 64 + fourth.toNat % 64)) = [first, second, third, fourth] := by
  generalize found : ((first.toNat % 8 * 64 + second.toNat % 64) * 64 + third.toNat % 64) * 64 +
    fourth.toNat % 64 = code
  have number := toNat_ofNat_of_scalar (by omega : code < 0xd800 ∨ 0xdfff < code ∧ code < 0x110000)
  simp only [encodeCharacter, number]
  rw [if_neg (by omega), if_neg (by omega), if_neg (by omega),
    ofNat_eq_of_toNat first (by omega), ofNat_eq_of_toNat second (by omega),
    ofNat_eq_of_toNat third (by omega), ofNat_eq_of_toNat fourth (by omega)]

/-! ### Texts -/

/-- A first octet of three and the ranges after it tell a character. -/
theorem exists_character_of_two_trails {pieces : List (Option Char)} {first lowest highest : UInt8}
    {bits : Nat} {octets : Octets} (range : 0xe0 ≤ first.toNat ∧ first.toNat ≤ 0xef)
    (wide : 0x80 ≤ lowest.toNat ∧ highest.toNat ≤ 0xbf)
    (long : first.toNat = 0xe0 → 0xa0 ≤ lowest.toNat)
    (noSurrogate : first.toNat = 0xed → highest.toNat ≤ 0x9f)
    (valid : Reader.Valid ⟨2, lowest, highest, bits, pieces⟩ octets) :
    ∃ character rest, first :: octets = encodeCharacter character ++ rest := by
  obtain ⟨second, third, rest, rfl, next, last⟩ := Reader.exists_two_trails_of_valid valid
  have coded := encodeCharacter_three range (by omega : 0x80 ≤ second.toNat ∧ second.toNat ≤ 0xbf)
    last (by omega) (by omega)
  exact ⟨_, rest, by rw [coded]; rfl⟩

/-- A first octet of four and the ranges after it tell a character. -/
theorem exists_character_of_three_trails {pieces : List (Option Char)}
    {first lowest highest : UInt8} {bits : Nat} {octets : Octets}
    (range : 0xf0 ≤ first.toNat ∧ first.toNat ≤ 0xf4)
    (wide : 0x80 ≤ lowest.toNat ∧ highest.toNat ≤ 0xbf)
    (long : first.toNat = 0xf0 → 0x90 ≤ lowest.toNat)
    (small : first.toNat = 0xf4 → highest.toNat ≤ 0x8f)
    (valid : Reader.Valid ⟨3, lowest, highest, bits, pieces⟩ octets) :
    ∃ character rest, first :: octets = encodeCharacter character ++ rest := by
  obtain ⟨second, third, fourth, rest, rfl, next, later, last⟩ :=
    Reader.exists_three_trails_of_valid valid
  have coded := encodeCharacter_four range (by omega : 0x80 ≤ second.toNat ∧ second.toNat ≤ 0xbf)
    later last (by omega) (by omega)
  exact ⟨_, rest, by rw [coded]; rfl⟩

/-- What can be read without an invalid piece begins with the octets of a character. -/
theorem exists_character_of_valid {pieces : List (Option Char)} {first : UInt8} {octets : Octets}
    (valid : Reader.Valid (Reader.between pieces) (first :: octets)) :
    ∃ character rest, first :: octets = encodeCharacter character ++ rest := by
  have valid : Reader.Valid (Reader.begin pieces first) octets := valid
  have isOctet := first.toNat_lt
  rw [← UInt8.ofNat_toNat (x := first), Reader.begin_ofNat pieces isOctet] at valid
  split at valid
  · rename_i ascii
    have same := toNat_ofNat_of_scalar (Or.inl (by omega : first.toNat < 0xd800))
    refine ⟨Char.ofNat first.toNat, octets, ?_⟩
    rw [encodeCharacter, same, if_pos ascii, UInt8.ofNat_toNat]
    rfl
  split at valid
  · rename_i range
    obtain ⟨second, rest, rfl, low, high, _⟩ := Reader.exists_trail_of_valid valid
    exact ⟨_, rest, by rw [encodeCharacter_two range ⟨low, high⟩]; rfl⟩
  split at valid
  · exact exists_character_of_two_trails (by omega) (by decide) (fun _ => by decide) (by omega) valid
  split at valid
  · exact exists_character_of_two_trails (by omega) (by decide) (by omega) (fun _ => by decide) valid
  split at valid
  · exact exists_character_of_two_trails (by omega) (by decide) (by omega) (by omega) valid
  split at valid
  · exact exists_character_of_three_trails (by omega) (by decide) (fun _ => by decide) (by omega)
      valid
  split at valid
  · exact exists_character_of_three_trails (by omega) (by decide) (by omega) (by omega) valid
  split at valid
  · exact exists_character_of_three_trails (by omega) (by decide) (by omega) (fun _ => by decide)
      valid
  · exact absurd valid (Reader.not_valid_of_none octets List.mem_cons_self)

/-- What can be read without an invalid piece is a text as it is written. -/
theorem exists_text_of_valid {pieces : List (Option Char)} {octets : Octets}
    (valid : Reader.Valid (Reader.between pieces) octets) : ∃ text, octets = encodeAll text := by
  generalize counted : octets.length = count
  induction count using Nat.strongRecOn generalizing pieces octets with
  | ind count inductionHypothesis =>
    subst counted
    match octets with
    | [] => exact ⟨[], rfl⟩
    | first :: later =>
      obtain ⟨character, rest, same⟩ := exists_character_of_valid valid
      rw [same] at valid
      rw [Reader.Valid, List.foldl_append, Reader.foldl_encodeCharacter] at valid
      have shorter : rest.length < (first :: later).length := by
        have positive := List.length_pos_iff.mpr (encodeCharacter_ne_nil character)
        rw [same, List.length_append]
        omega
      obtain ⟨text, rfl⟩ := inductionHypothesis rest.length shorter valid rfl
      exact ⟨character :: text, same⟩

/-- Octets are read as a text exactly if they are what it is written as. -/
theorem decode?_eq_some_iff {octets : Octets} {text : List Char} :
    decode? octets = some text ↔ octets = encodeAll text := by
  constructor
  · intro found
    have valid : Reader.Valid (Reader.between []) octets := by
      rw [decode?] at found
      split at found
      · rename_i all
        exact List.all_eq_true.mp all
      · cases found
    obtain ⟨other, rfl⟩ := exists_text_of_valid valid
    rw [decode?_encodeAll] at found
    rw [Option.some.inj found]
  · rintro rfl
    exact decode?_encodeAll text

end WebFetch.Utf8
