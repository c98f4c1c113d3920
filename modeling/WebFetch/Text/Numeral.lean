/-
This file reads numerals: digits of a radix, of which there is at least one, after an optional
plus sign. A numeral is refused at the first character that is no digit or that makes the number
too large, whichever comes first.
-/

namespace WebFetch

/-- Why a text is not a numeral. -/
inductive NumeralError where
  | empty
  | invalidDigit
  | tooLarge
  deriving DecidableEq, Repr

def NumeralError.message : NumeralError → String
  | .empty => "cannot parse integer from empty string"
  | .invalidDigit => "invalid digit found in string"
  | .tooLarge => "number too large to fit in target type"

namespace Numeral

/-- The value of a digit in a radix of at most 36; letters count in either case. -/
def digit? (radix : Nat) (character : Char) : Option Nat :=
  let code := character.toNat
  let value :=
    if 48 ≤ code ∧ code ≤ 57 then code - 48
    else if 97 ≤ code ∧ code ≤ 122 then code - 87
    else if 65 ≤ code ∧ code ≤ 90 then code - 55
    else radix
  if value < radix then some value else none

/-- Appends the digits of a text to a number that has to stay below a bound. -/
def extend (radix bound : Nat) (value : Nat) : List Char → Except NumeralError Nat
  | [] => .ok value
  | character :: rest =>
    match digit? radix character with
    | none => .error .invalidDigit
    | some digit =>
      if value * radix + digit < bound then extend radix bound (value * radix + digit) rest
      else .error .tooLarge

/-- The number below `bound` that a text denotes. -/
def parse (radix bound : Nat) (text : List Char) : Except NumeralError Nat :=
  match text with
  | [] => .error .empty
  | ['+'] => .error .invalidDigit
  | '+' :: digits => extend radix bound 0 digits
  | _ => extend radix bound 0 text

end Numeral

end WebFetch
