/-
This file is about numerals as they are written: the digits of a number, without a sign and with no
blanks around them, denote the number again. Trimming leaves a text as it is if no blank stands at
its ends.
-/

import WebFetch.Text.Blank
import WebFetch.Text.Numeral

namespace WebFetch

/-! ### Trimming -/

theorem dropWhile_isBlank {text : List Char}
    (begins : ∀ first, text.head? = some first → isBlank first = false) :
    text.dropWhile isBlank = text := by
  cases text with
  | nil => rfl
  | cons first rest => exact List.dropWhile_cons_of_neg (by simp [begins first rfl])

theorem trim_of_unblank_ends {text : List Char}
    (begins : ∀ first, text.head? = some first → isBlank first = false)
    (ends : ∀ last, text.getLast? = some last → isBlank last = false) : trim text = text := by
  rw [← List.head?_reverse] at ends
  rw [trim, dropWhile_isBlank begins, dropWhile_isBlank ends, List.reverse_reverse]

theorem trim_of_unblank {text : List Char}
    (unblank : ∀ character ∈ text, isBlank character = false) : trim text = text :=
  trim_of_unblank_ends (fun first isFirst => unblank first (List.mem_of_head? isFirst))
    fun last isLast => unblank last (List.mem_of_getLast? isLast)

theorem mem_of_mem_trim {text : List Char} {character : Char} (member : character ∈ trim text) :
    character ∈ text := by
  have trimmed := (List.dropWhile_suffix isBlank).subset (List.mem_reverse.mp member)
  exact (List.dropWhile_suffix isBlank).subset (List.mem_reverse.mp trimmed)

/-- A text that was trimmed does not end in a blank. -/
theorem isBlank_getLast?_trim {text : List Char} {last : Char}
    (ends : (trim text).getLast? = some last) : isBlank last = false := by
  rw [trim, List.getLast?_reverse] at ends
  have unblank := List.head?_dropWhile_not isBlank (text.dropWhile isBlank).reverse
  rwa [ends] at unblank

namespace Numeral

/-! ### Digits -/

/-- Whether the sixteen digits are enough to write numbers in a radix. -/
structure IsRadix (radix : Nat) : Prop where
  one_lt : 1 < radix
  le_sixteen : radix ≤ 16

theorem IsRadix.ten : IsRadix 10 := ⟨by decide, by decide⟩

theorem IsRadix.sixteen : IsRadix 16 := ⟨by decide, by decide⟩

/-- A digit of a radix is one of every larger radix. -/
theorem isSome_digit?_mono {radix other : Nat} {character : Char} (most : radix ≤ other)
    (isDigit : (digit? radix character).isSome = true) :
    (digit? other character).isSome = true := by
  simp only [digit?, Option.isSome_ite] at isDigit ⊢
  grind

/-- What holds of the sixteen digits holds of all digits that numbers are written with. -/
theorem forall_mem_toDigits {radix : Nat} {Holds : Char → Prop} (isRadix : IsRadix radix)
    (digits : ∀ digit < 16, Holds (Nat.digitChar digit)) (value : Nat) :
    ∀ character ∈ Nat.toDigits radix value, Holds character := by
  obtain ⟨two, sixteen⟩ := isRadix
  induction value using Nat.strongRecOn with
  | ind value inductionHypothesis =>
    rw [Nat.toDigits_eq_if two]
    split
    · rename_i small
      intro character member
      rw [List.mem_singleton] at member
      rw [member]
      exact digits value (by omega)
    · rename_i large
      intro character member
      have last := Nat.mod_lt value (by omega : 0 < radix)
      rcases List.mem_append.mp member with before | isLast
      · exact inductionHypothesis _ (Nat.div_lt_self (by omega) two) character before
      · rw [List.mem_singleton] at isLast
        rw [isLast]
        exact digits _ (by omega)

theorem not_mem_toDigits {radix : Nat} {character : Char} (isRadix : IsRadix radix)
    (other : ∀ digit < 16, Nat.digitChar digit ≠ character) (value : Nat) :
    character ∉ Nat.toDigits radix value := by
  intro member
  have different := @forall_mem_toDigits radix (· ≠ character) isRadix other value
  exact different character member rfl

theorem digit?_digitChar {radix digit : Nat} (sixteen : radix ≤ 16) (within : digit < radix) :
    digit? radix (Nat.digitChar digit) = some digit := by
  have all : ∀ radix ≤ 16, ∀ digit < radix, digit? radix (Nat.digitChar digit) = some digit := by
    decide
  exact all radix sixteen digit within

/-! ### Numerals -/

theorem extend_concat {radix bound first value digit : Nat} {text : List Char} {character : Char}
    (before : extend radix bound first text = .ok value)
    (isDigit : digit? radix character = some digit) (small : value * radix + digit < bound) :
    extend radix bound first (text ++ [character]) = .ok (value * radix + digit) := by
  induction text generalizing first with
  | nil =>
    cases before
    simp only [List.nil_append, extend, isDigit, if_pos small]
  | cons head rest inductionHypothesis =>
    rw [extend] at before
    rw [List.cons_append, extend]
    split at before
    · cases before
    · split at before
      · rename_i within
        simp only [if_pos within]
        exact inductionHypothesis before
      · cases before

theorem extend_toDigits {radix bound value : Nat} (isRadix : IsRadix radix)
    (small : value < bound) : extend radix bound 0 (Nat.toDigits radix value) = .ok value := by
  obtain ⟨two, sixteen⟩ := isRadix
  induction value using Nat.strongRecOn with
  | ind value inductionHypothesis =>
    rw [Nat.toDigits_eq_if two]
    split
    · rename_i oneDigit
      simp only [extend, digit?_digitChar sixteen oneDigit, Nat.zero_mul, Nat.zero_add,
        if_pos small]
    · rename_i more
      have parts := Nat.div_add_mod' value radix
      have shorter := Nat.div_lt_self (by omega : 0 < value) two
      have before := inductionHypothesis (value / radix) shorter (by omega)
      have last := digit?_digitChar sixteen (Nat.mod_lt value (by omega : 0 < radix))
      rw [extend_concat before last (by omega), parts]

/-- The digits of a number denote it. -/
theorem parse_toDigits {radix bound value : Nat} (isRadix : IsRadix radix)
    (small : value < bound) : parse radix bound (Nat.toDigits radix value) = .ok value := by
  have unsigned : '+' ∉ Nat.toDigits radix value :=
    not_mem_toDigits isRadix (by decide) value
  unfold parse
  split
  · rename_i nothing
    exact absurd nothing Nat.toDigits_ne_nil
  · rename_i sign
    exact absurd (sign ▸ List.mem_cons_self) unsigned
  · rename_i digits _ sign
    exact absurd (sign ▸ List.mem_cons_self) unsigned
  · exact extend_toDigits isRadix small

theorem trim_toDigits {radix : Nat} (isRadix : IsRadix radix) (value : Nat) :
    trim (Nat.toDigits radix value) = Nat.toDigits radix value :=
  trim_of_unblank (forall_mem_toDigits isRadix (by decide) value)

/-! ### What is read as a numeral -/

/-- Whether a character is a hexadecimal digit, in either case. -/
def isHexDigit (character : Char) : Bool :=
  character.isDigit || decide ('a' ≤ character ∧ character ≤ 'f') ||
    decide ('A' ≤ character ∧ character ≤ 'F')

theorem isSome_digit?_ten (character : Char) :
    (digit? 10 character).isSome = character.isDigit := by
  rw [Bool.eq_iff_iff]
  simp only [digit?, Option.isSome_ite, Char.isDigit, Bool.and_eq_true, decide_eq_true_eq,
    UInt32.le_iff_toNat_le, ge_iff_le, Char.toNat]
  have zero : (48 : UInt32).toNat = 48 := rfl
  have nine : (57 : UInt32).toNat = 57 := rfl
  grind

theorem isSome_digit?_sixteen (character : Char) :
    (digit? 16 character).isSome = isHexDigit character := by
  rw [Bool.eq_iff_iff]
  simp only [digit?, Option.isSome_ite, isHexDigit, Char.isDigit, Bool.and_eq_true,
    Bool.or_eq_true, decide_eq_true_eq, UInt32.le_iff_toNat_le, ge_iff_le, Char.toNat, Char.le_def]
  have zero : (48 : UInt32).toNat = 48 := rfl
  have nine : (57 : UInt32).toNat = 57 := rfl
  have small : 'a'.val.toNat = 97 ∧ 'f'.val.toNat = 102 := ⟨rfl, rfl⟩
  have capital : 'A'.val.toNat = 65 ∧ 'F'.val.toNat = 70 := ⟨rfl, rfl⟩
  grind

theorem forall_mem_of_extend {radix bound first value : Nat} {text : List Char}
    (found : extend radix bound first text = .ok value) :
    ∀ character ∈ text, (digit? radix character).isSome = true := by
  induction text generalizing first with
  | nil => exact List.forall_mem_nil _
  | cons character rest inductionHypothesis =>
    rw [extend] at found
    split at found
    · cases found
    · rename_i digit isDigit
      split at found
      · exact List.forall_mem_cons.mpr ⟨by rw [isDigit]; rfl, inductionHypothesis found⟩
      · cases found

/-- The number that decimal digits denote, first digit first. -/
theorem eq_foldl_of_extend {bound first value : Nat} {text : List Char}
    (found : extend 10 bound first text = .ok value) :
    value = text.foldl (fun value digit => value * 10 + (digit.toNat - 48)) first := by
  induction text generalizing first with
  | nil => exact (Except.ok.inj found).symm
  | cons character rest inductionHypothesis =>
    rw [extend] at found
    split at found
    · cases found
    · rename_i digit isDigit
      split at found
      · have same : digit = character.toNat - 48 := by
          simp only [digit?] at isDigit
          grind
        rw [List.foldl_cons, ← same]
        exact inductionHypothesis found
      · cases found

/-- A numeral is digits, at least one, or a sign and such digits. -/
theorem exists_digits_of_parse {radix bound value : Nat} {text : List Char}
    (found : parse radix bound text = .ok value) :
    ∃ digits, digits ≠ [] ∧ (text = digits ∨ text = '+' :: digits) ∧
      extend radix bound 0 digits = .ok value := by
  unfold parse at found
  split at found
  · cases found
  · cases found
  · rename_i digits some
    exact ⟨digits, some, Or.inr rfl, found⟩
  · rename_i some _ _
    exact ⟨text, some, Or.inl rfl, found⟩

end Numeral

end WebFetch
