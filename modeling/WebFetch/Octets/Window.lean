/-
This file holds windows: octet strings read at offsets, where a read that leaves the window is
an error that names the offset, the length and the size. Offsets and lengths have 64 bits, so an
end that needs more is an error of its own.
-/

import WebFetch.Octets

namespace WebFetch

/-- Why octets could not be read or a number could not be written. -/
inductive RangeError where
  /-- The octets asked for do not lie in the window. -/
  | outOfRange (offset length size : Nat)
  /-- An end offset or a number is too large for its width. -/
  | overflow
  deriving DecidableEq, Repr

def RangeError.message : RangeError → String
  | .outOfRange offset length size =>
    s!"range error: offset {offset} length {length} exceeds buffer of {size} bytes"
  | .overflow => "range error: arithmetic overflow"

/-- An octet string that is read at offsets. -/
structure Window where
  octets : Octets
  deriving DecidableEq

namespace Window

def size (window : Window) : Nat := window.octets.length

/-- Whether `length` octets at `offset` lie in the window. -/
def contains (window : Window) (offset length : Nat) : Bool :=
  decide (offset + length < wordLimit) && decide (offset + length ≤ window.size)

/-- The `length` octets at `offset`. -/
def bytes (window : Window) (offset length : Nat) : Except RangeError Octets :=
  if wordLimit ≤ offset + length then .error .overflow
  else if window.size < offset + length then .error (.outOfRange offset length window.size)
  else .ok ((window.octets.drop offset).take length)

/-- The number written in the `width` octets at `offset`. -/
def number (window : Window) (width offset : Nat) : Except RangeError Nat :=
  (window.bytes offset width).map Octets.toNat

/-- The narrower window of `length` octets at `offset`. -/
def subwindow (window : Window) (offset length : Nat) : Except RangeError Window :=
  (window.bytes offset length).map Window.mk

end Window

end WebFetch
