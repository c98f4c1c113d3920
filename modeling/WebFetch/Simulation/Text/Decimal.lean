/-
This file says which texts are decimal numbers: digits with a point among or beside them and
perhaps an exponent, or the words for infinity and for what is no number, each perhaps signed.
-/

namespace WebFetch.Simulation.Decimal

/-- A text without the sign it may begin with. -/
def unsigned : List Char → List Char
  | '+' :: rest => rest
  | '-' :: rest => rest
  | text => text

/-- The words that count as numbers, in lower case. -/
def words : List (List Char) := ["inf".toList, "infinity".toList, "nan".toList]

/-- Whether a text consists of digits, at least one. -/
def isDigits (text : List Char) : Bool := !text.isEmpty && text.all Char.isDigit

/-- Whether a text is an exponent, or nothing. -/
def isExponent : List Char → Bool
  | [] => true
  | mark :: rest => (mark == 'e' || mark == 'E') && isDigits (unsigned rest)

/-- Whether a text without a sign consists of digits, a point and an exponent. The point needs a
digit on one side. -/
def isPositional (text : List Char) : Bool :=
  let whole := text.takeWhile Char.isDigit
  match text.drop whole.length with
  | '.' :: rest =>
    let fraction := rest.takeWhile Char.isDigit
    isDigits (whole ++ fraction) && isExponent (rest.drop fraction.length)
  | rest => isDigits whole && isExponent rest

def isNumber (text : List Char) : Bool :=
  words.contains ((unsigned text).map Char.toLower) || isPositional (unsigned text)

end WebFetch.Simulation.Decimal
