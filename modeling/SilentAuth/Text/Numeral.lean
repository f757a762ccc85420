import SilentAuth.Text.Blank

/-!
# Unsigned decimal numerals

Reading a 64-bit number from a text, and writing one.
-/

namespace SilentAuth

namespace Numeral

/-- Appends the digits of a text to a number. -/
def digits? (n : Nat) : List Char → Option Nat
  | [] => some n
  | c :: rest =>
    if '0' ≤ c ∧ c ≤ '9' then digits? (n * 10 + (c.toNat - '0'.toNat)) rest else none

/-- The number a text says in decimal digits, of which there is at least one. -/
def natural? (cs : List Char) : Option Nat := if cs.isEmpty then none else digits? 0 cs

/-- The 64-bit number that a text says, with or without a plus sign before the digits. -/
def read? (s : String) : Option UInt64 := do
  let cs := s.toList
  let n ← natural? (if cs.head? = some '+' then cs.tail else cs)
  if n < 0x10000000000000000 then some n.toUInt64 else none

/-- The decimal digits of a number. -/
def write (n : Nat) : String := String.ofList (Nat.toDigits 10 n)

end Numeral

end SilentAuth
