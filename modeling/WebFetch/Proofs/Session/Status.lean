/-
This file says which header fields tell a status, without the way in which it is looked up: three
decimal digits in the first field of its name, whatever fields come before and after.
-/

import WebFetch.Session.Response

namespace WebFetch.Session

/-- The octet of a decimal digit. -/
def digitOctet (digit : Fin 10) : UInt8 := 0x30 + UInt8.ofNat digit

/-- Whether header fields tell a status: the first field of its name holds its three digits. -/
def TellsStatus (headers : List Header) (status : UInt16) : Prop :=
  ∃ before after, ∃ hundreds tens units : Fin 10,
    headers = before ++
      ⟨statusName, [digitOctet hundreds, digitOctet tens, digitOctet units]⟩ :: after ∧
    (∀ header ∈ before, header.name ≠ statusName) ∧
    status.toNat = 100 * hundreds + 10 * tens + units

theorem isDigit_digitOctet (digit : Fin 10) : isDigit (digitOctet digit) = true := by
  revert digit
  decide

theorem toNat_digitOctet (digit : Fin 10) : (digitOctet digit).toNat - 0x30 = digit := by
  revert digit
  decide

theorem exists_digitOctet_of_isDigit {octet : UInt8} (digit : isDigit octet = true) :
    ∃ place : Fin 10, octet = digitOctet place := by
  obtain ⟨low, high⟩ := of_decide_eq_true digit
  have lowNat : 0x30 ≤ octet.toNat := low
  have highNat : octet.toNat ≤ 0x39 := high
  refine ⟨⟨octet.toNat - 0x30, by omega⟩, UInt8.toNat_inj.mp ?_⟩
  show octet.toNat = (0x30 + (octet.toNat - 0x30) % 2 ^ 8) % 2 ^ 8
  omega

/-- Three octets are read as a status exactly if they are digits. -/
theorem parseStatus_of_find? {headers : List Header} {value : Octets}
    (found : headers.find? (fun header => header.name == statusName) = some ⟨statusName, value⟩)
    (status : UInt16) :
    parseStatus headers = .ok status ↔
      ∃ hundreds tens units : Fin 10,
        value = [digitOctet hundreds, digitOctet tens, digitOctet units] ∧
        status.toNat = 100 * hundreds + 10 * tens + units := by
  rw [parseStatus, found]
  dsimp only
  constructor
  · intro read
    split at read
    case isFalse => cases read
    case isTrue digits =>
      cases read
      match value, digits with
      | [first, second, third], ⟨_, digits⟩ =>
        simp only [List.all_cons, List.all_nil, Bool.and_true, Bool.and_eq_true] at digits
        obtain ⟨hundreds, rfl⟩ := exists_digitOctet_of_isDigit digits.1
        obtain ⟨tens, rfl⟩ := exists_digitOctet_of_isDigit digits.2.1
        obtain ⟨units, rfl⟩ := exists_digitOctet_of_isDigit digits.2.2
        refine ⟨hundreds, tens, units, rfl, ?_⟩
        simp only [List.foldl_cons, List.foldl_nil, toNat_digitOctet]
        rw [UInt16.toNat_ofNat', Nat.mod_eq_of_lt (by omega)]
        omega
  · rintro ⟨hundreds, tens, units, rfl, same⟩
    rw [if_pos ⟨rfl, by simp only [List.all_cons, isDigit_digitOctet, List.all_nil, Bool.and_true]⟩]
    simp only [List.foldl_cons, List.foldl_nil, toNat_digitOctet]
    refine congrArg Except.ok (UInt16.toNat_inj.mp ?_)
    rw [UInt16.toNat_ofNat', Nat.mod_eq_of_lt (by omega), same]
    omega

/-- A status is read from header fields exactly if they tell it. -/
theorem parseStatus_eq_ok_iff {headers : List Header} {status : UInt16} :
    parseStatus headers = .ok status ↔ TellsStatus headers status := by
  constructor
  · intro read
    match found : headers.find? fun header => header.name == statusName with
    | none =>
      rw [parseStatus, found] at read
      cases read
    | some ⟨name, value⟩ =>
      obtain ⟨named, before, after, rfl, others⟩ := List.find?_eq_some_iff_append.mp found
      obtain rfl := eq_of_beq named
      obtain ⟨hundreds, tens, units, rfl, same⟩ := (parseStatus_of_find? found status).mp read
      refine ⟨before, after, hundreds, tens, units, rfl, fun header member => ?_, same⟩
      simpa using others header member
  · rintro ⟨before, after, hundreds, tens, units, rfl, others, same⟩
    refine (parseStatus_of_find? (List.find?_eq_some_iff_append.mpr ⟨beq_self_eq_true statusName,
      before, after, rfl, fun header member => ?_⟩) status).mpr
      ⟨hundreds, tens, units, rfl, same⟩
    simpa using others header member

end WebFetch.Session
