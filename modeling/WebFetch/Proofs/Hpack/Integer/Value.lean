/-
This file says what reading an integer gives for every octet string. The octets after the first one
count until one of them does not say that more follow. What they denote together is the value if it
fits 64 bits and at most ten of them were needed; else they overflow, unless the string ends before
that is known.
-/

import Mathlib.Data.Nat.Digits.Defs
import WebFetch.Proofs.Hpack.Integer
import WebFetch.Proofs.Octets.Window

namespace WebFetch.Hpack.Integer

/-! ### The octets after the first -/

/-- The number that octets denote by their last seven bits each, the least significant first. -/
def number (octets : Octets) : Nat :=
  Nat.ofDigits 128 (octets.map fun octet => octet.toNat % 128)

/-- Whether reading comes to an octet: it is there, and all before it say that more follow. -/
def Reaches (octets : Octets) (index : Nat) : Prop :=
  index < octets.length ∧ ∀ octet ∈ octets.take index, 128 ≤ octet

/-- Whether reading ends with an octet: all before it say that more follow, and it does not. -/
def EndsAt (octets : Octets) (index : Nat) : Prop :=
  (∀ octet ∈ octets.take index, 128 ≤ octet) ∧ ∃ last, octets[index]? = some last ∧ last < 128

theorem number_nil : number [] = 0 := rfl

theorem number_cons (octet : UInt8) (octets : Octets) :
    number (octet :: octets) = octet.toNat % 128 + 128 * number octets := by
  rw [number, List.map_cons, Nat.ofDigits_cons]
  rfl

/-- Another octet stands for multiples of 128 times what the first one counts. -/
theorem add_number_cons (base shift : Nat) (octet : UInt8) (octets : Octets) :
    base + number (octet :: octets) * 2 ^ shift =
      base + octet.toNat % 128 * 2 ^ shift + number octets * 2 ^ (shift + 7) := by
  rw [number_cons, Nat.pow_add]
  ring

theorem reaches_zero (octet : UInt8) (octets : Octets) : Reaches (octet :: octets) 0 :=
  ⟨Nat.succ_pos _, nofun⟩

theorem reaches_succ {octet : UInt8} {octets : Octets} {index : Nat} :
    Reaches (octet :: octets) (index + 1) ↔ 128 ≤ octet ∧ Reaches octets index := by
  simp only [Reaches, List.length_cons, Nat.add_lt_add_iff_right, List.take_succ_cons,
    List.forall_mem_cons]
  exact and_left_comm

theorem Reaches.mono {octets : Octets} {index earlier : Nat} (reaches : Reaches octets index)
    (before : earlier ≤ index) : Reaches octets earlier :=
  ⟨Nat.lt_of_le_of_lt before reaches.1, fun octet member =>
    reaches.2 octet (List.take_subset_take_left _ before member)⟩

theorem endsAt_zero {octet : UInt8} {octets : Octets} :
    EndsAt (octet :: octets) 0 ↔ octet < 128 := by
  simp [EndsAt]

theorem endsAt_succ {octet : UInt8} {octets : Octets} {index : Nat} :
    EndsAt (octet :: octets) (index + 1) ↔ 128 ≤ octet ∧ EndsAt octets index := by
  simp only [EndsAt, List.take_succ_cons, List.forall_mem_cons, List.getElem?_cons_succ, and_assoc]

theorem EndsAt.reaches {octets : Octets} {index : Nat} (ends : EndsAt octets index) :
    Reaches octets index := by
  obtain ⟨continued, last, found, _⟩ := ends
  exact ⟨(List.getElem?_eq_some_iff.mp found).1, continued⟩

/-! ### Reading them -/

/-- Whether 64 bits do not hold the shift of an octet or the value with it. -/
def Exceeds (base shift : Nat) (octet : UInt8) : Prop :=
  64 ≤ shift ∨ wordLimit ≤ base + octet.toNat % 128 * 2 ^ shift

theorem extend_of_exceeds {size base shift : Nat} {octet : UInt8} (rest : Octets)
    (exceeds : Exceeds base shift octet) :
    extend size base shift (octet :: rest) = .error .integerOverflow := by
  rw [Exceeds] at exceeds
  simp only [extend, Nat.shiftLeft_eq, if_pos exceeds]

theorem extend_of_last {size base shift : Nat} {octet : UInt8} (rest : Octets)
    (small : ¬ Exceeds base shift octet) (last : octet < 128) :
    extend size base shift (octet :: rest) =
      .ok (base + octet.toNat % 128 * 2 ^ shift, rest) := by
  rw [Exceeds] at small
  simp only [extend, Nat.shiftLeft_eq, if_neg small, if_pos last]

theorem extend_of_continued {size base shift : Nat} {octet : UInt8} (rest : Octets)
    (small : ¬ Exceeds base shift octet) (continued : 128 ≤ octet) :
    extend size base shift (octet :: rest) =
      extend size (base + octet.toNat % 128 * 2 ^ shift) (shift + 7) rest := by
  rw [Exceeds] at small
  simp only [extend, Nat.shiftLeft_eq, if_neg small, if_neg (UInt8.not_lt.mpr continued)]

/-- Reading the octets that follow adds what they denote, if they end before the shift or the value
leaves 64 bits. -/
theorem extend_eq_ok_iff {size base shift value : Nat} {octets rest : Octets} :
    extend size base shift octets = .ok (value, rest) ↔
      ∃ last, EndsAt octets last ∧ shift + 7 * last < 64 ∧
        value = base + number (octets.take (last + 1)) * 2 ^ shift ∧ value < wordLimit ∧
        rest = octets.drop (last + 1) := by
  induction octets generalizing base shift with
  | nil => simp [extend, EndsAt]
  | cons octet octets inductionHypothesis =>
    by_cases exceeds : Exceeds base shift octet
    · rw [extend_of_exceeds octets exceeds]
      refine iff_of_false (fun read => by cases read) ?_
      rintro ⟨last, _, few, same, small, _⟩
      rw [List.take_succ_cons, add_number_cons] at same
      rcases exceeds with far | large <;> omega
    · have fits := exceeds
      simp only [Exceeds, not_or, Nat.not_le] at fits
      rw [← Nat.or_exists_add_one]
      by_cases ends : octet < 128
      · rw [extend_of_last octets exceeds ends]
        simp only [endsAt_zero, endsAt_succ, ends, UInt8.not_le.mpr ends, false_and, exists_false,
          or_false, true_and, List.take_succ_cons, add_number_cons, List.take_zero, number_nil,
          Nat.zero_mul, Nat.add_zero, List.drop_succ_cons, List.drop_zero]
        constructor
        · intro same
          cases same
          exact ⟨fits.1, rfl, fits.2, rfl⟩
        · rintro ⟨_, rfl, _, rfl⟩
          rfl
      · have continued := UInt8.not_lt.mp ends
        rw [extend_of_continued octets exceeds continued, inductionHypothesis]
        simp only [endsAt_zero, endsAt_succ, ends, continued, false_and, true_and, false_or,
          List.take_succ_cons, add_number_cons, List.drop_succ_cons, Nat.mul_add, Nat.mul_one,
          Nat.add_assoc, Nat.add_comm 7]

/-- Reading the octets that follow overflows if it comes to one of which the shift, or the value
with it, leaves 64 bits. -/
theorem extend_eq_overflow_iff {size base shift : Nat} {octets : Octets} :
    extend size base shift octets = .error .integerOverflow ↔
      ∃ index, Reaches octets index ∧ (64 ≤ shift + 7 * index ∨
        wordLimit ≤ base + number (octets.take (index + 1)) * 2 ^ shift) := by
  induction octets generalizing base shift with
  | nil =>
    simp only [extend, missing, Reaches, List.length_nil, Nat.not_lt_zero, false_and, exists_false,
      iff_false]
    intro read
    split at read
    · cases read
    · cases read
  | cons octet octets inductionHypothesis =>
    rw [← Nat.or_exists_add_one]
    simp only [reaches_zero, reaches_succ, true_and, List.take_succ_cons, add_number_cons]
    by_cases exceeds : Exceeds base shift octet
    · rw [extend_of_exceeds octets exceeds]
      exact iff_of_true rfl (Or.inl (exceeds.imp_right fun large => Nat.le_add_right_of_le large))
    · have fits := exceeds
      simp only [Exceeds, not_or, Nat.not_le] at fits
      by_cases ends : octet < 128
      · rw [extend_of_last octets exceeds ends]
        refine iff_of_false (fun read => by cases read) ?_
        simp [number, UInt8.not_le.mpr ends, fits]
      · have continued := UInt8.not_lt.mp ends
        rw [extend_of_continued octets exceeds continued, inductionHypothesis]
        simp [number, continued, fits, Nat.mul_add, Nat.add_assoc, Nat.add_comm 7]

theorem extend_error {size base shift : Nat} {octets : Octets} {error : HpackError}
    (found : extend size base shift octets = .error error) :
    error = .integerOverflow ∨ error = missing size 1 [] := by
  induction octets generalizing base shift with
  | nil => exact Or.inr (Except.error.inj found).symm
  | cons octet octets inductionHypothesis =>
    rw [extend] at found
    split at found
    · exact Or.inl (Except.error.inj found).symm
    · split at found
      · cases found
      · exact inductionHypothesis found

/-! ### The whole -/

/-- What an integer denotes whose first octet is full, with the octets that follow. -/
def denoted (bits : Nat) (following : Octets) : Nat := 2 ^ bits - 1 + number following

/-- Whether the octets that follow a full one end with one of the first ten and denote a value of
64 bits. -/
def Fits (bits : Nat) (following : Octets) (last : Nat) : Prop :=
  last ≤ 9 ∧ EndsAt following last ∧ denoted bits (following.take (last + 1)) < 2 ^ 64

/-- Whether the octets that follow a full one go on to the eleventh, or to one with which they
denote more than 64 bits hold. -/
def Overflows (bits : Nat) (following : Octets) (index : Nat) : Prop :=
  index ≤ 10 ∧ Reaches following index ∧
    (index = 10 ∨ 2 ^ 64 ≤ denoted bits (following.take (index + 1)))

/-- What reading an integer gives at the beginning of octets, the last ones of a string of `size`:
the value and the number of octets that it takes, or why there is none. -/
inductive ReadsAs (bits size : Nat) : Octets → Except HpackError (Nat × Nat) → Prop
  | nothing : ReadsAs bits size [] (.error (.range (.outOfRange size 1 size)))
  | inFirst {first : UInt8} {following : Octets}
    (small : first.toNat % 2 ^ bits < 2 ^ bits - 1) :
    ReadsAs bits size (first :: following) (.ok (first.toNat % 2 ^ bits, 1))
  | inMore {first : UInt8} {following : Octets} {last : Nat}
    (full : first.toNat % 2 ^ bits = 2 ^ bits - 1) (fits : Fits bits following last) :
    ReadsAs bits size (first :: following)
      (.ok (denoted bits (following.take (last + 1)), last + 2))
  | tooLarge {first : UInt8} {following : Octets}
    (full : first.toNat % 2 ^ bits = 2 ^ bits - 1) (valueless : ¬ ∃ last, Fits bits following last)
    (overflows : ∃ index, Overflows bits following index) :
    ReadsAs bits size (first :: following) (.error .integerOverflow)
  | cutShort {first : UInt8} {following : Octets}
    (full : first.toNat % 2 ^ bits = 2 ^ bits - 1) (valueless : ¬ ∃ last, Fits bits following last)
    (small : ¬ ∃ index, Overflows bits following index) :
    ReadsAs bits size (first :: following) (.error (.range (.outOfRange size 1 size)))

theorem extend_full_eq_ok_iff {size bits value : Nat} {following rest : Octets} :
    extend size (2 ^ bits - 1) 0 following = .ok (value, rest) ↔
      ∃ last, Fits bits following last ∧ value = denoted bits (following.take (last + 1)) ∧
        rest = following.drop (last + 1) := by
  have limit : wordLimit = 2 ^ 64 := rfl
  rw [extend_eq_ok_iff]
  refine exists_congr fun last => ?_
  rw [Nat.pow_zero, Nat.mul_one, Nat.zero_add, limit, Fits, denoted]
  constructor
  · rintro ⟨ends, few, same, small, left⟩
    exact ⟨⟨by omega, ends, same ▸ small⟩, same, left⟩
  · rintro ⟨⟨few, ends, small⟩, same, left⟩
    exact ⟨ends, by omega, same, same ▸ small, left⟩

theorem extend_full_eq_overflow_iff {size bits : Nat} {following : Octets} :
    extend size (2 ^ bits - 1) 0 following = .error .integerOverflow ↔
      ∃ index, Overflows bits following index := by
  have limit : wordLimit = 2 ^ 64 := rfl
  rw [extend_eq_overflow_iff]
  constructor
  · rintro ⟨index, reaches, exceeds⟩
    rw [Nat.pow_zero, Nat.mul_one, Nat.zero_add, limit] at exceeds
    -- Whatever comes after the eleventh octet has come to the eleventh before.
    by_cases far : 10 ≤ index
    · exact ⟨10, Nat.le_refl 10, reaches.mono far, Or.inl rfl⟩
    · exact ⟨index, by omega, reaches, exceeds.imp_left (by omega)⟩
  · rintro ⟨index, _, reaches, exceeds⟩
    refine ⟨index, reaches, ?_⟩
    rw [Nat.pow_zero, Nat.mul_one, Nat.zero_add, limit]
    exact exceeds.imp_left (by omega)

/-- What the octets that follow a full one, in a string of `size`, are read as: the value and how
many octets the integer takes. -/
def readOn (size bits : Nat) (following : Octets) : Except HpackError (Nat × Nat) :=
  (extend size (2 ^ bits - 1) 0 following).map
    fun (value, rest) => (value, following.length + 1 - rest.length)

theorem readOn_of_fits {size bits last : Nat} {following : Octets}
    (fits : Fits bits following last) :
    readOn size bits following = .ok (denoted bits (following.take (last + 1)), last + 2) := by
  have inside := fits.2.1.reaches.1
  rw [readOn, extend_full_eq_ok_iff.mpr ⟨last, fits, rfl, rfl⟩]
  show Except.ok (_, following.length + 1 - (following.drop (last + 1)).length) = _
  rw [List.length_drop]
  congr 2
  omega

theorem readOn_of_overflows {size bits : Nat} {following : Octets}
    (overflows : ∃ index, Overflows bits following index) :
    readOn size bits following = .error .integerOverflow := by
  rw [readOn, extend_full_eq_overflow_iff.mpr overflows]
  rfl

/-- Octets that neither end nor overflow in time are too few. -/
theorem readOn_of_cutShort {size bits : Nat} {following : Octets} (short : size < 2 ^ 63)
    (valueless : ¬ ∃ last, Fits bits following last)
    (small : ¬ ∃ index, Overflows bits following index) :
    readOn size bits following = .error (.range (.outOfRange size 1 size)) := by
  match read : extend size (2 ^ bits - 1) 0 following with
  | .ok (value, rest) =>
    obtain ⟨last, fits, _⟩ := extend_full_eq_ok_iff.mp read
    exact absurd ⟨last, fits⟩ valueless
  | .error error =>
    rcases extend_error read with rfl | rfl
    · exact absurd (extend_full_eq_overflow_iff.mp read) small
    · have addressable : ¬ wordLimit ≤ size + 1 := by
        have limit : wordLimit = 2 ^ 64 := rfl
        omega
      rw [readOn, read]
      exact congrArg Except.error (if_neg addressable)

theorem decodeAt_of_nil {octets : Octets} {offset : Nat} (bits : Nat)
    (addressable : offset + 1 < wordLimit) (nothing : octets.drop offset = []) :
    decodeAt octets offset bits = .error (.range (.outOfRange offset 1 octets.length)) := by
  have short : octets.length < offset + 1 := Nat.lt_succ_of_le (List.drop_eq_nil_iff.mp nothing)
  rw [decodeAt, @Window.bytes_of_lt ⟨octets⟩ offset 1 short addressable]
  rfl

/-- The octets that follow are read if the first one is full. -/
theorem decodeAt_of_cons {octets following : Octets} {first : UInt8} {offset : Nat} (bits : Nat)
    (addressable : offset + 1 < wordLimit) (found : octets.drop offset = first :: following) :
    decodeAt octets offset bits =
      if first.toNat % 2 ^ bits < 2 ^ bits - 1 then .ok (first.toNat % 2 ^ bits, 1)
      else readOn octets.length bits following := by
  have remaining := congrArg List.length found
  rw [List.length_drop, List.length_cons] at remaining
  have long : offset + 1 ≤ octets.length := by omega
  rw [decodeAt, @Window.bytes_of_le ⟨octets⟩ offset 1 long addressable, found]
  simp only [decode, mask_eq, Nat.one_shiftLeft, remaining]
  split
  · show Except.ok (_, following.length + 1 - following.length) = _
    rw [Nat.add_sub_cancel_left]
  · have below := Nat.mod_lt first.toNat (Nat.two_pow_pos bits)
    have full : first.toNat % 2 ^ bits = 2 ^ bits - 1 := by omega
    rw [full, readOn]
    cases extend octets.length (2 ^ bits - 1) 0 following <;> rfl

/-- An integer is read as is said of the octets at its place, and in no other way. -/
theorem decodeAt_eq_iff_readsAs {octets : Octets} {offset : Nat} (bits : Nat)
    (short : octets.length < 2 ^ 63) (inside : offset ≤ octets.length)
    (result : Except HpackError (Nat × Nat)) :
    decodeAt octets offset bits = result ↔
      ReadsAs bits octets.length (octets.drop offset) result := by
  have addressable : offset + 1 < wordLimit := by
    have limit : wordLimit = 2 ^ 64 := rfl
    omega
  match found : octets.drop offset with
  | [] =>
    have atEnd : offset = octets.length := Nat.le_antisymm inside (List.drop_eq_nil_iff.mp found)
    rw [decodeAt_of_nil bits addressable found, atEnd]
    constructor
    · rintro rfl
      exact .nothing
    · rintro ⟨⟩
      rfl
  | first :: following =>
    rw [decodeAt_of_cons bits addressable found]
    by_cases small : first.toNat % 2 ^ bits < 2 ^ bits - 1
    · rw [if_pos small]
      constructor
      · rintro rfl
        exact .inFirst small
      · intro reads
        cases reads with
        | inFirst => rfl
        | inMore full | tooLarge full | cutShort full => exact absurd small (Nat.not_lt.mpr full.ge)
    · have below := Nat.mod_lt first.toNat (Nat.two_pow_pos bits)
      have full : first.toNat % 2 ^ bits = 2 ^ bits - 1 := by omega
      rw [if_neg small]
      constructor
      · rintro rfl
        by_cases fits : ∃ last, Fits bits following last
        · obtain ⟨last, fits⟩ := fits
          rw [readOn_of_fits fits]
          exact .inMore full fits
        · by_cases overflows : ∃ index, Overflows bits following index
          · rw [readOn_of_overflows overflows]
            exact .tooLarge full fits overflows
          · rw [readOn_of_cutShort short fits overflows]
            exact .cutShort full fits overflows
      · intro reads
        cases reads with
        | inFirst low => exact absurd low small
        | inMore _ fits => exact readOn_of_fits fits
        | tooLarge _ _ overflows => exact readOn_of_overflows overflows
        | cutShort _ valueless small => exact readOn_of_cutShort short valueless small

end WebFetch.Hpack.Integer
