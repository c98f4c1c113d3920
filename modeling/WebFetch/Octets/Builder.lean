/-
This file holds the builder of octet strings: numbers of a fixed width and raw octets are added
at the end, and what was added before stays as it is.
-/

import WebFetch.Octets.Window

namespace WebFetch

/-- An octet string under construction. -/
structure Builder where
  octets : Octets
  deriving DecidableEq

namespace Builder

/-- A builder to which nothing was added. -/
def empty : Builder := ⟨[]⟩

def bytes (builder : Builder) (octets : Octets) : Builder :=
  ⟨builder.octets ++ octets⟩

/-- Adds a number of `width` octets. -/
def number (builder : Builder) (width value : Nat) : Builder :=
  builder.bytes (Octets.ofNat width value)

/-- Adds a number of 24 bits, unless it needs more. -/
def number24 (builder : Builder) (value : Nat) : Except RangeError Builder :=
  match UInt24.ofNat? value with
  | none => .error .overflow
  | some value => .ok (builder.bytes value.octets)

end Builder

end WebFetch
