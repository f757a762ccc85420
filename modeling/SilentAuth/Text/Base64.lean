/-!
# Base64 for URLs

Bytes written in letters, digits, hyphens and underscores, six bits each, without padding. Bits that
are left over at the end have to be zero.
-/

namespace SilentAuth

namespace Base64

/-- The six bits of a character. -/
def sextet? (c : Char) : Option Nat :=
  if 'A' ≤ c ∧ c ≤ 'Z' then some (c.toNat - 'A'.toNat)
  else if 'a' ≤ c ∧ c ≤ 'z' then some (c.toNat - 'a'.toNat + 26)
  else if '0' ≤ c ∧ c ≤ '9' then some (c.toNat - '0'.toNat + 52)
  else if c = '-' then some 62
  else if c = '_' then some 63
  else none

/-- The bytes of groups of six bits. -/
def bytes? : List Nat → Option (List UInt8)
  | [] => some []
  | [_] => none
  | [a, b] => if b % 16 = 0 then some [(a * 4 + b / 16).toUInt8] else none
  | [a, b, c] =>
    if c % 4 = 0 then some [(a * 4 + b / 16).toUInt8, (b % 16 * 16 + c / 4).toUInt8] else none
  | a :: b :: c :: d :: rest => do
    return (a * 4 + b / 16).toUInt8 :: (b % 16 * 16 + c / 4).toUInt8 ::
      (c % 4 * 64 + d).toUInt8 :: (← bytes? rest)

/-- The bytes that a text says. -/
def decode? (cs : List Char) : Option (List UInt8) := do bytes? (← cs.mapM sextet?)

/-- The bytes that a text says; equality signs at its end are padding. -/
def decodePadded? (s : String) : Option (List UInt8) :=
  decode? (s.toList.reverse.dropWhile (· == '=')).reverse

end Base64

end SilentAuth
