/-
This file is about UTF-8: characters are read back from the octets they were written as, and an
octet below 128 is written for no character but its own.
-/

import WebFetch.Text.Utf8

namespace WebFetch.Utf8

namespace Reader

/-! ### One octet -/

theorem step_between (pieces : List (Option Char)) (octet : UInt8) :
    step (between pieces) octet = begin pieces octet := rfl

/-- What the first octet of a character says, by its number. -/
theorem begin_ofNat (pieces : List (Option Char)) {value : Nat} (isOctet : value < 256) :
    begin pieces (UInt8.ofNat value) =
      if value < 0x80 then between (some (Char.ofNat value) :: pieces)
      else if 0xc2 ≤ value ∧ value ≤ 0xdf then ⟨1, 0x80, 0xbf, value % 32, pieces⟩
      else if value = 0xe0 then ⟨2, 0xa0, 0xbf, 0, pieces⟩
      else if value = 0xed then ⟨2, 0x80, 0x9f, 13, pieces⟩
      else if 0xe1 ≤ value ∧ value ≤ 0xef then ⟨2, 0x80, 0xbf, value % 16, pieces⟩
      else if value = 0xf0 then ⟨3, 0x90, 0xbf, 0, pieces⟩
      else if 0xf1 ≤ value ∧ value ≤ 0xf3 then ⟨3, 0x80, 0xbf, value % 8, pieces⟩
      else if value = 0xf4 then ⟨3, 0x80, 0x8f, 4, pieces⟩
      else between (none :: pieces) := by
  have number : (UInt8.ofNat value).toNat = value := UInt8.toNat_ofNat_of_lt' isOctet
  simp only [begin, UInt8.lt_iff_toNat_lt, UInt8.le_iff_toNat_le, ← UInt8.toNat_inj, number,
    UInt8.reduceToNat]

/-- The first of three octets, and which second ones it excludes. -/
theorem begin_three (pieces : List (Option Char)) (value next : Nat)
    (range : 0xe0 ≤ value ∧ value ≤ 0xef) (long : value = 0xe0 → 0x20 ≤ next)
    (noSurrogate : value = 0xed → next < 0x20) (small : next < 0x40) :
    ∃ lowest highest : UInt8, begin pieces (UInt8.ofNat value) =
        ⟨2, lowest, highest, value % 16, pieces⟩ ∧
      lowest.toNat ≤ 0x80 + next ∧ 0x80 + next ≤ highest.toNat := by
  rw [begin_ofNat pieces (by omega), if_neg (by omega), if_neg (by omega)]
  split
  · rename_i first
    subst first
    exact ⟨0xa0, 0xbf, rfl, by show 160 ≤ _; omega, by show _ ≤ 191; omega⟩
  split
  · rename_i surrogates
    subst surrogates
    exact ⟨0x80, 0x9f, rfl, by show 128 ≤ _; omega, by show _ ≤ 159; omega⟩
  · rw [if_pos (by omega)]
    exact ⟨0x80, 0xbf, rfl, by show 128 ≤ _; omega, by show _ ≤ 191; omega⟩

/-- The first of four octets, and which second ones it excludes. -/
theorem begin_four (pieces : List (Option Char)) (value next : Nat)
    (range : 0xf0 ≤ value ∧ value ≤ 0xf4) (long : value = 0xf0 → 0x10 ≤ next)
    (last : value = 0xf4 → next < 0x10) (small : next < 0x40) :
    ∃ lowest highest : UInt8, begin pieces (UInt8.ofNat value) =
        ⟨3, lowest, highest, value % 8, pieces⟩ ∧
      lowest.toNat ≤ 0x80 + next ∧ 0x80 + next ≤ highest.toNat := by
  rw [begin_ofNat pieces (by omega), if_neg (by omega), if_neg (by omega), if_neg (by omega),
    if_neg (by omega), if_neg (by omega)]
  split
  · rename_i first
    subst first
    exact ⟨0x90, 0xbf, rfl, by show 144 ≤ _; omega, by show _ ≤ 191; omega⟩
  split
  · exact ⟨0x80, 0xbf, rfl, by show 128 ≤ _; omega, by show _ ≤ 191; omega⟩
  · rename_i beyond
    have isLast : value = 0xf4 := by omega
    subst isLast
    exact ⟨0x80, 0x8f, rfl, by show 128 ≤ _; omega, by show _ ≤ 143; omega⟩

/-- An octet that continues a character either completes it or leaves one octet less to come. -/
theorem step_trail {needed : Nat} {lowest highest : UInt8} {bits value : Nat}
    {pieces : List (Option Char)} (above : lowest.toNat ≤ 0x80 + value % 64)
    (below : 0x80 + value % 64 ≤ highest.toNat) :
    step ⟨needed + 1, lowest, highest, bits, pieces⟩ (UInt8.ofNat (0x80 + value % 64)) =
      if needed = 0 then between (some (Char.ofNat (bits * 64 + value % 64)) :: pieces)
      else ⟨needed, 0x80, 0xbf, bits * 64 + value % 64, pieces⟩ := by
  have number : (UInt8.ofNat (0x80 + value % 64)).toNat = 0x80 + value % 64 :=
    UInt8.toNat_ofNat_of_lt' (by show _ < 256; omega)
  have remainder : (0x80 + value % 64) % 64 = value % 64 := by omega
  have inRange : lowest ≤ UInt8.ofNat (0x80 + value % 64) ∧
      UInt8.ofNat (0x80 + value % 64) ≤ highest := by
    rw [UInt8.le_iff_toNat_le, UInt8.le_iff_toNat_le, number]
    exact ⟨above, below⟩
  rw [step, if_neg (Nat.succ_ne_zero needed), if_pos inRange]
  simp only [number, remainder, Nat.add_eq_right, Nat.add_sub_cancel]

/-- The octets after the second one of a character are in no narrower range. -/
theorem step_any_trail {needed bits : Nat} (value : Nat) {pieces : List (Option Char)} :
    step ⟨needed + 1, 0x80, 0xbf, bits, pieces⟩ (UInt8.ofNat (0x80 + value % 64)) =
      if needed = 0 then between (some (Char.ofNat (bits * 64 + value % 64)) :: pieces)
      else ⟨needed, 0x80, 0xbf, bits * 64 + value % 64, pieces⟩ :=
  step_trail (by show 128 ≤ _; omega) (by show _ ≤ 191; omega)

/-! ### One character -/

theorem code_cases (character : Char) :
    character.toNat < 0xd800 ∨ 0xdfff < character.toNat ∧ character.toNat < 0x110000 :=
  character.valid

/-- The octets of a character are read as the character. -/
theorem foldl_encodeCharacter (pieces : List (Option Char)) (character : Char) :
    (encodeCharacter character).foldl step (between pieces) =
      between (some character :: pieces) := by
  have valid := code_cases character
  have same : Char.ofNat character.toNat = character := Char.ofNat_toNat character
  unfold encodeCharacter
  generalize character.toNat = code at valid same ⊢
  dsimp only
  split
  · rename_i one
    rw [List.foldl_cons, step_between, begin_ofNat pieces (by omega), if_pos one, same,
      List.foldl_nil]
  split
  · rename_i one two
    have value : (0xc0 + code / 64) % 32 * 64 + code % 64 = code := by omega
    rw [List.foldl_cons, step_between, begin_ofNat pieces (by omega), if_neg (by omega),
      if_pos (by omega), List.foldl_cons, step_any_trail, if_pos rfl, List.foldl_nil, value, same]
  split
  · rename_i one two three
    have value : ((0xe0 + code / 4096) % 16 * 64 + code / 64 % 64) * 64 + code % 64 = code := by
      omega
    obtain ⟨lowest, highest, begun, above, below⟩ :=
      begin_three pieces (0xe0 + code / 4096) (code / 64 % 64) (by omega) (by omega) (by omega)
        (by omega)
    rw [List.foldl_cons, step_between, begun, List.foldl_cons, step_trail above below,
      if_neg Nat.one_ne_zero, List.foldl_cons, step_any_trail, if_pos rfl, List.foldl_nil, value,
      same]
  · rename_i one two three
    have value : (((0xf0 + code / 262144) % 8 * 64 + code / 4096 % 64) * 64 + code / 64 % 64) * 64 +
        code % 64 = code := by omega
    obtain ⟨lowest, highest, begun, above, below⟩ :=
      begin_four pieces (0xf0 + code / 262144) (code / 4096 % 64) (by omega) (by omega) (by omega)
        (by omega)
    rw [List.foldl_cons, step_between, begun, List.foldl_cons, step_trail above below,
      if_neg (by decide), List.foldl_cons, step_any_trail, if_neg Nat.one_ne_zero, List.foldl_cons,
      step_any_trail, if_pos rfl, List.foldl_nil, value, same]

end Reader

/-! ### A text -/

/-- The pieces of a text that was written are its characters. -/
theorem pieces_encodeAll (text : List Char) : pieces (encodeAll text) = text.map some := by
  have read : ∀ passed, (encodeAll text).foldl Reader.step (Reader.between passed) =
      Reader.between ((text.map some).reverse ++ passed) := by
    induction text with
    | nil => exact fun _ => rfl
    | cons character rest inductionHypothesis =>
      intro passed
      rw [encodeAll, List.flatMap_cons, List.foldl_append, Reader.foldl_encodeCharacter]
      have later := inductionHypothesis (some character :: passed)
      rw [encodeAll] at later
      rw [later, List.map_cons, List.reverse_cons, List.append_assoc]
      rfl
  rw [pieces, read, List.append_nil]
  exact List.reverse_reverse _

/-- A text that was written is read back. -/
theorem decode?_encodeAll (text : List Char) : decode? (encodeAll text) = some text := by
  rw [decode?, pieces_encodeAll]
  simp

/-- An octet below 128 is written for its own character only. -/
theorem toNat_of_mem_encodeCharacter {octet : UInt8} {character : Char}
    (ascii : octet.toNat < 0x80) (member : octet ∈ encodeCharacter character) :
    octet.toNat = character.toNat := by
  have valid := Reader.code_cases character
  have number : ∀ value < 256, (UInt8.ofNat value).toNat = value := fun value small =>
    UInt8.toNat_ofNat_of_lt' small
  unfold encodeCharacter at member
  generalize character.toNat = code at valid member ⊢
  have trail : ∀ value, (UInt8.ofNat (0x80 + value % 64)).toNat = 0x80 + value % 64 := fun value =>
    number _ (by omega)
  have last := trail code
  have third := trail (code / 64)
  have second := trail (code / 4096)
  dsimp only at member
  split at member
  · rw [List.mem_singleton] at member
    rw [member, number code (by omega)]
  -- The octets of all other characters are at least 128.
  all_goals exfalso
  split at member
  · have first := number (0xc0 + code / 64) (by omega)
    simp only [List.mem_cons, List.not_mem_nil, or_false] at member
    rcases member with rfl | rfl <;> omega
  split at member
  · have first := number (0xe0 + code / 4096) (by omega)
    simp only [List.mem_cons, List.not_mem_nil, or_false] at member
    rcases member with rfl | rfl | rfl <;> omega
  · have first := number (0xf0 + code / 262144) (by omega)
    simp only [List.mem_cons, List.not_mem_nil, or_false] at member
    rcases member with rfl | rfl | rfl | rfl <;> omega

/-- A text without an ASCII character is written without its octet. -/
theorem not_mem_encodeAll {octet : UInt8} {text : List Char} (ascii : octet.toNat < 0x80)
    (absent : Char.ofNat octet.toNat ∉ text) : octet ∉ encodeAll text := by
  intro member
  obtain ⟨character, inText, member⟩ := List.mem_flatMap.mp member
  rw [toNat_of_mem_encodeCharacter ascii member, Char.ofNat_toNat] at absent
  exact absent inText

/-! ### Texts -/

/-- An ASCII character is written as its octet, and no other is. -/
theorem mem_encode_iff {octet : UInt8} (ascii : octet.toNat < 0x80) (text : String) :
    octet ∈ encode text ↔ Char.ofNat octet.toNat ∈ text.toList := by
  constructor
  · intro member
    exact Decidable.byContradiction fun absent => not_mem_encodeAll ascii absent member
  · intro member
    have codes : ∀ code < 0x80, (Char.ofNat code).toNat = code := by decide
    have code := codes octet.toNat ascii
    have one : encodeCharacter (Char.ofNat octet.toNat) = [octet] := by
      simp only [encodeCharacter, code, if_pos ascii, UInt8.ofNat_toNat]
    exact List.mem_flatMap.mpr ⟨_, member, one ▸ List.mem_singleton_self _⟩

theorem encode_append (first second : String) :
    encode (first ++ second) = encode first ++ encode second := by
  rw [encode, encode, encode, String.toList_append, encodeAll, List.flatMap_append]
  rfl

theorem encode_ne_nil {text : String} (some : text.toList ≠ []) : encode text ≠ [] := by
  intro nothing
  have read := decode?_encodeAll text.toList
  rw [show encodeAll text.toList = [] from nothing] at read
  exact some (Option.some.inj read).symm

end WebFetch.Utf8
