/-
This file says that the first octet of an instruction always tells its kind. What none of the first
four patterns fits has the last one, so no block is refused because of how an instruction begins.
-/

import WebFetch.Proofs.Hpack.Failure

namespace WebFetch

/-- Whether an error is not about how an instruction begins. -/
def HpackError.AfterKind (error : HpackError) : Prop :=
  ∀ octet, error ≠ .unknownRepresentation octet

namespace Hpack

/-- An octet that begins none of the other instructions begins a new maximum. -/
theorem resizes_of_others {octet : UInt8} (notIndexed : octet &&& 0x80 ≠ 0x80)
    (notIncremental : octet &&& 0xc0 ≠ 0x40) (notWithout : octet &&& 0xf0 ≠ 0x00)
    (notNever : octet &&& 0xf0 ≠ 0x10) : octet &&& 0xe0 = 0x20 := by
  have all : ∀ value < 256, UInt8.ofNat value &&& 0x80 = 0x80 ∨ UInt8.ofNat value &&& 0xc0 = 0x40 ∨
      UInt8.ofNat value &&& 0xf0 = 0x00 ∨ UInt8.ofNat value &&& 0xf0 = 0x10 ∨
      UInt8.ofNat value &&& 0xe0 = 0x20 := by decide +kernel
  have kinds := all octet.toNat octet.toNat_lt
  rw [UInt8.ofNat_toNat] at kinds
  simpa only [notIndexed, notIncremental, notWithout, notNever, false_or] using kinds

theorem afterKind_missing (size length : Nat) (rest : Octets) :
    (missing size length rest).AfterKind := by
  obtain ⟨range, same⟩ := exists_missing_eq size length rest
  rw [same]
  exact nofun

/-! ### Parts of instructions -/

theorem Integer.afterKind_of_extend {size value shift : Nat} {octets : Octets} {error : HpackError}
    (refused : extend size value shift octets = .error error) : error.AfterKind := by
  induction octets generalizing value shift with
  | nil =>
    cases refused
    exact afterKind_missing _ _ _
  | cons octet octets inductionHypothesis =>
    rw [extend] at refused
    split at refused
    · cases refused
      intro other same
      cases same
    · split at refused
      · cases refused
      · exact inductionHypothesis refused

theorem Integer.afterKind_of_decode {size bits : Nat} {octets : Octets} {error : HpackError}
    (refused : decode size bits octets = .error error) : error.AfterKind := by
  cases octets with
  | nil =>
    cases refused
    exact afterKind_missing _ _ _
  | cons octet octets =>
    rw [decode] at refused
    split at refused
    · cases refused
    · exact afterKind_of_extend refused

theorem afterKind_of_takeOctets {size length : Nat} {octets : Octets} {error : HpackError}
    (refused : takeOctets size length octets = .error error) : error.AfterKind := by
  unfold takeOctets at refused
  dsimp only at refused
  split at refused
  · cases refused
    exact afterKind_missing _ _ _
  · cases refused

theorem StringLiteral.afterKind_of_unpack {huffman : Bool} {raw : Octets} {error : HpackError}
    (refused : unpack huffman raw = .error error) : error.AfterKind := by
  unfold unpack at refused
  split at refused
  · cases decoded : Huffman.decode raw with
    | error failure =>
      rw [decoded] at refused
      cases refused
      exact nofun
    | ok value =>
      rw [decoded] at refused
      cases refused
  · cases refused

theorem StringLiteral.afterKind_of_decode {size : Nat} {octets : Octets} {error : HpackError}
    (refused : decode size octets = .error error) : error.AfterKind := by
  cases octets with
  | nil =>
    cases refused
    exact afterKind_missing _ _ _
  | cons octet octets =>
    rcases exists_error_of_bind refused with length | ⟨_, _, refused⟩
    · exact Integer.afterKind_of_decode length
    · rcases exists_error_of_bind refused with raw | ⟨_, _, refused⟩
      · exact afterKind_of_takeOctets raw
      · rcases exists_error_of_bind refused with unpacked | ⟨_, _, refused⟩
        · exact afterKind_of_unpack unpacked
        · cases refused

theorem afterKind_of_lookup {table : DynamicTable} {index : Nat} {error : HpackError}
    (refused : lookup table index = .error error) : error.AfterKind := by
  unfold lookup at refused
  split at refused
  · cases refused
  · cases refused
    exact nofun

theorem afterKind_of_name {table : DynamicTable} {size index : Nat} {octets : Octets}
    {error : HpackError} (refused : name table size index octets = .error error) :
    error.AfterKind := by
  unfold name at refused
  split at refused
  · exact StringLiteral.afterKind_of_decode refused
  · cases looked : lookup table index with
    | error failure =>
      rw [looked] at refused
      cases refused
      exact afterKind_of_lookup looked
    | ok header =>
      rw [looked] at refused
      cases refused

/-- A field that is written out, whatever becomes of it, is not refused for its kind. -/
theorem afterKind_of_literal {table : DynamicTable} {size bits : Nat} {indexing : Indexing}
    {octets : Octets} {error : HpackError}
    (refused : (do
      let (header, rest) ← literal table size bits octets
      return (Instruction.literal indexing header, rest)) = .error error) :
    error.AfterKind := by
  rcases exists_error_of_bind refused with header | ⟨_, _, refused⟩
  · rcases exists_error_of_bind header with index | ⟨_, _, header⟩
    · exact Integer.afterKind_of_decode index
    · rcases exists_error_of_bind header with name | ⟨_, _, header⟩
      · exact afterKind_of_name name
      · rcases exists_error_of_bind header with value | ⟨_, _, header⟩
        · exact StringLiteral.afterKind_of_decode value
        · cases header
  · cases refused

/-! ### Instructions and blocks -/

/-- No instruction is refused for its kind. -/
theorem afterKind_of_instruction {table : DynamicTable} {size : Nat} {octets : Octets}
    {error : HpackError} (refused : instruction table size octets = .error error) :
    error.AfterKind := by
  cases octets with
  | nil =>
    cases refused
    exact afterKind_missing _ _ _
  | cons octet octets =>
    rw [instruction] at refused
    split at refused
    case isTrue =>
      rcases exists_error_of_bind refused with index | ⟨_, _, refused⟩
      · exact Integer.afterKind_of_decode index
      · rcases exists_error_of_bind refused with header | ⟨_, _, refused⟩
        · exact afterKind_of_lookup header
        · cases refused
    case isFalse notIndexed =>
      split at refused
      case isTrue => exact afterKind_of_literal refused
      case isFalse notIncremental =>
        split at refused
        case isTrue => exact afterKind_of_literal refused
        case isFalse notWithout =>
          split at refused
          case isTrue => exact afterKind_of_literal refused
          case isFalse notNever =>
            rw [if_pos (resizes_of_others notIndexed notIncremental notWithout notNever)] at refused
            rcases exists_error_of_bind refused with maximum | ⟨_, _, refused⟩
            · exact Integer.afterKind_of_decode maximum
            · cases refused

/-- No block is refused because of how an instruction begins. -/
theorem decode_ne_unknownRepresentation (table : DynamicTable) (block : Octets) (journal : Journal)
    (octet : UInt8) :
    (decode table block journal).result ≠ .error (.unknownRepresentation octet) := by
  intro refused
  obtain ⟨before, failing, headers, stops⟩ := exists_stopsAt refused
  exact afterKind_of_instruction stops.refused octet rfl

end Hpack

end WebFetch
