/-
This file names the first numbers that words of the widths in use do not hold. Numbers that stand
for words are compared with them wherever a word would overflow.
-/

namespace WebFetch

/-- The first number that 16 bits do not hold. -/
def wordLimit16 : Nat := 0x10000

/-- The first number that 24 bits do not hold. -/
def wordLimit24 : Nat := 0x1000000

/-- The first number that 31 bits do not hold. -/
def wordLimit31 : Nat := 0x80000000

/-- The first number that 32 bits do not hold. -/
def wordLimit32 : Nat := 0x100000000

/-- The first number that 64 bits do not hold. -/
def wordLimit : Nat := 0x10000000000000000

end WebFetch
