/-
This file quotes texts for a message: between double quotes, with a backslash before a quote or
a backslash, a letter for the common control characters, and the number of every other character
that a line does not show.
-/

import WebFetch.Octets
import WebFetch.Text.Unprinted

namespace WebFetch.Quoted

/-- The hexadecimal digits of a number, without leading zeros. -/
def hexNumeral (value : Nat) : List Char :=
  Nat.toDigits 16 value

/-- A character by its number, as in a quoted text. -/
def numbered (character : Char) : List Char :=
  ['\\', 'u', '\x7b'] ++ hexNumeral character.toNat ++ ['\x7d']

/-- A character as it stands in a quoted text. -/
def encodeCharacter (character : Char) : List Char :=
  if character = '\x00' then ['\\', '0']
  else if character = '\t' then ['\\', 't']
  else if character = '\n' then ['\\', 'n']
  else if character = '\r' then ['\\', 'r']
  else if character = '"' then ['\\', '"']
  else if character = '\\' then ['\\', '\\']
  else if isUnprinted character then numbered character
  else [character]

def encode (text : String) : String :=
  String.ofList ('"' :: text.toList.flatMap encodeCharacter ++ ['"'])

end WebFetch.Quoted
