/-
This file says which characters are blank, by the Unicode property of that name, and trims blanks
from both ends of a text.
-/

namespace WebFetch

/-- The ranges of the Unicode property White_Space, first and last character. -/
def blankRanges : List (Nat × Nat) :=
  [(0x09, 0x0d), (0x20, 0x20), (0x85, 0x85), (0xa0, 0xa0), (0x1680, 0x1680), (0x2000, 0x200a),
    (0x2028, 0x2029), (0x202f, 0x202f), (0x205f, 0x205f), (0x3000, 0x3000)]

def isBlank (character : Char) : Bool :=
  blankRanges.any fun (first, last) => decide (first ≤ character.toNat ∧ character.toNat ≤ last)

/-- The text without the blanks at its ends. -/
def trim (text : List Char) : List Char :=
  ((text.dropWhile isBlank).reverse.dropWhile isBlank).reverse

end WebFetch
