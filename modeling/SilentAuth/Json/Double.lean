/-!
# Finite binary64 numbers

A finite double is its sign and the bits below the sign, read as one natural number. All arithmetic
here is on natural numbers: the number nearest to a quotient (ties go to the even neighbour),
products and quotients of such numbers, and the decimal with the fewest digits that rounds back.
-/

namespace SilentAuth

/-- A finite binary64 number. -/
structure Double where
  /-- Whether the sign bit is set. -/
  negative : Bool
  /-- The exponent and fraction bits; the exponent is not the one of the infinities. -/
  magnitude : Fin 0x7FF0000000000000
deriving DecidableEq

namespace Double

/-! ### Magnitudes as quotients -/

/-- The bits of the absolute value of a finite double. -/
abbrev Magnitude := Fin 0x7FF0000000000000

/-- The leading bit of a significand that has all its 53 bits, `2 ^ 52`. -/
def leadingBit : Nat := 0x10000000000000

/-- A power of ten. -/
def tenTo (e : Nat) : Nat := Nat.pow 10 e

/-- The whole number `m` of a magnitude with value `m * 2 ^ (exponent - 1074)`. -/
def significand (b : Magnitude) : Nat :=
  if b.val < leadingBit then b.val else b.val % leadingBit + leadingBit

/-- The power of two of a magnitude, counted from the smallest one. -/
def scale (b : Magnitude) : Nat := b.val / leadingBit - 1

/-- Numerator of the value of a magnitude. -/
def numerator (b : Magnitude) : Nat := significand b <<< (scale b - 1074)

/-- Denominator of the value of a magnitude. -/
def denominator (b : Magnitude) : Nat := 1 <<< (1074 - scale b)

/-- The whole number nearest to a quotient; a half goes to the even neighbour. -/
def roundQuotient (num den : Nat) : Nat :=
  let low := num / den
  let rest := 2 * (num % den)
  if rest < den then low
  else if den < rest then low + 1
  else if low % 2 = 0 then low else low + 1

/-- The largest `e` with `2 ^ e ≤ num / den`, for positive numbers. -/
def binaryOrder (num den : Nat) : Int :=
  let estimate : Int := (Nat.log2 num : Int) - (Nat.log2 den : Int)
  if den <<< estimate.toNat ≤ num <<< (-estimate).toNat then estimate else estimate - 1

/-- The magnitude nearest to the quotient of two positive numbers, if it is finite. Bits grow by
one where the significand does, also across a power of two, so rounding up to the next power needs
no case of its own. -/
def nearest? (num den : Nat) : Option Magnitude :=
  if num = 0 then some ⟨0, by decide⟩
  else
    let unit : Nat := (binaryOrder num den - 52 + 1074).toNat
    let bits := unit * leadingBit + roundQuotient (num <<< (1074 - unit)) (den <<< (unit - 1074))
    if h : bits < 0x7FF0000000000000 then some ⟨bits, h⟩ else none

/-- The product of two magnitudes, if it is finite. -/
def mul? (a b : Magnitude) : Option Magnitude :=
  nearest? (numerator a * numerator b) (denominator a * denominator b)

/-- The quotient of two magnitudes, if it is finite. -/
def div? (a b : Magnitude) : Option Magnitude :=
  nearest? (numerator a * denominator b) (denominator a * numerator b)

/-- The double nearest to a power of ten. -/
def powerOfTen? (e : Nat) : Option Magnitude := nearest? (tenTo e) 1

/-- The value read for `digits * 10 ^ exponent`: the double nearest to `digits`, multiplied or
divided by the double nearest to the power of ten. Powers beyond the greatest finite one are
divided out in two steps. Nothing is read where the product is not finite. -/
def ofDecimal? (digits : Nat) (exponent : Int) : Option Magnitude := do
  let value ← nearest? digits 1
  if 0 ≤ exponent then
    if exponent ≤ 308 then mul? value (← powerOfTen? exponent.toNat)
    else if value.val = 0 then some value else none
  else
    let places := (-exponent).toNat
    if places ≤ 308 then div? value (← powerOfTen? places)
    else if places ≤ 616 then
      div? (← div? value (← powerOfTen? 308)) (← powerOfTen? (places - 308))
    else some ⟨0, by decide⟩

/-! ### Decimal text -/

/-- The decimal digits of a number, most significant first. -/
def decimalDigits (n : Nat) : List Char := Nat.toDigits 10 n

/-- The largest `e` with `10 ^ e ≤ num / den`, for positive numbers. -/
def decimalOrder (num den : Nat) : Int :=
  if den ≤ num then (decimalDigits (num / den)).length - 1
  else
    let places := (decimalDigits (den / num)).length
    if den ≤ num * tenTo (places - 1) then -((places : Int) - 1) else -(places : Int)

/-- Reads `digits * 10 ^ exponent` to the nearest magnitude, in one step. -/
def nearestDecimal? (digits : Nat) (exponent : Int) : Option Magnitude :=
  nearest? (digits * tenTo exponent.toNat) (tenTo (-exponent).toNat)

/-- A decimal on the grid of multiples of `10 ^ exponent` that rounds to the magnitude. Of the two
neighbours on the grid the nearer one is taken if both do, and the even one of two equally near. -/
def onGrid? (b : Magnitude) (exponent : Int) : Option Nat :=
  let num := numerator b * tenTo (-exponent).toNat
  let den := denominator b * tenTo exponent.toNat
  let low := num / den
  let first := roundQuotient num den
  let second := if first = low then low + 1 else low
  if nearestDecimal? first exponent = some b then some first
  else if nearestDecimal? second exponent = some b then some second
  else none

/-- The coarsest grid that holds a decimal rounding to the magnitude, among those that write it
with `17 - more` to 17 digits, the first of which has the weight `10 ^ order`. -/
def shortestFrom (b : Magnitude) (order : Int) : (more : Nat) → Nat × Int
  | 0 => ((onGrid? b (order - 16)).getD 0, order - 16)
  | more + 1 =>
    match onGrid? b (order - (16 - (more + 1 : Nat))) with
    | some digits => (digits, order - (16 - (more + 1 : Nat)))
    | none => shortestFrom b order more

/-- The digits of the shortest decimal that rounds to a positive magnitude, without trailing
zeros, and the power of ten that is the weight of the first digit. -/
def shortest (b : Magnitude) : List Char × Int :=
  let found := shortestFrom b (decimalOrder (numerator b) (denominator b)) 16
  let digits := decimalDigits found.1
  ((digits.reverse.dropWhile (· == '0')).reverse, found.2 + digits.length - 1)

/-- Writes digits whose first one has the weight `10 ^ order`: in positional form with at least one
digit on each side of the point when `-5 ≤ order ≤ 15`, else with an exponent that has a sign. -/
def layout (digits : List Char) (order : Int) : List Char :=
  if -5 ≤ order ∧ order ≤ 15 then
    if 0 ≤ order then
      let whole := order.toNat + 1
      let padded := digits ++ List.replicate (whole - digits.length) '0'
      let fraction := padded.drop whole
      padded.take whole ++ '.' :: (if fraction.isEmpty then ['0'] else fraction)
    else '0' :: '.' :: List.replicate ((-order).toNat - 1) '0' ++ digits
  else
    let fraction := digits.drop 1
    digits.take 1 ++ (if fraction.isEmpty then [] else '.' :: fraction) ++
      'e' :: (if 0 ≤ order then '+' else '-') :: decimalDigits order.natAbs

/-- The text of a double. -/
def text (d : Double) : List Char :=
  let unsigned :=
    if d.magnitude.val = 0 then ['0', '.', '0']
    else layout (shortest d.magnitude).1 (shortest d.magnitude).2
  if d.negative then '-' :: unsigned else unsigned

end Double

end SilentAuth
