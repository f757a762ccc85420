import Mathlib.Tactic.Linarith
import Mathlib.Tactic.Positivity
import Mathlib.Tactic.Ring
import SilentAuth.Json.Double

/-!
# Rounding to binary64

The bits of a magnitude are read as one natural number, and `Double.units` says its value in units
of the smallest positive magnitude, also for bits beyond the finite ones. A quotient is rounded to
bits whose value is within half a step of it on both sides, and to the even ones of two that are
equally near.

* `Double.nearestBits_spec`: where the quotient lies between the neighbours of the bits.
* `Double.nearestBits_eq_of_between`: a quotient closer to one value than to its neighbours.
* `Double.nearestBits_mono`: a greater quotient has no smaller bits.
-/

namespace SilentAuth

namespace Double

/-- The value of bits, in units of the smallest positive magnitude. -/
def units (bits : Nat) : Nat :=
  (if bits < leadingBit then bits else bits % leadingBit + leadingBit) *
    2 ^ (bits / leadingBit - 1)

/-- The number of units in one. -/
def unitsInOne : Nat := 2 ^ 1074

/-- The power of two that a quotient is rounded to multiples of, counted from the smallest. -/
def unitOf (num den : Nat) : Nat := (binaryOrder num den - 52 + 1074).toNat

/-- The bits that a quotient is rounded to, finite or not. -/
def nearestBits (num den : Nat) : Nat :=
  unitOf num den * leadingBit +
    roundQuotient (num <<< (1074 - unitOf num den)) (den <<< (unitOf num den - 1074))

/-- There is at least one unit in one. -/
theorem unitsInOne_pos : 0 < unitsInOne := by
  unfold unitsInOne
  positivity

/-- The magnitude with these bits, if it is finite. -/
def ofBits? (bits : Nat) : Option Magnitude :=
  if h : bits < 0x7FF0000000000000 then some ⟨bits, h⟩ else none

/-- Bits give the magnitude that has them. -/
theorem ofBits?_eq_some_iff {bits : Nat} {b : Magnitude} :
    ofBits? bits = some b ↔ bits = b.val := by
  unfold ofBits?
  split
  · rw [Option.some_inj, Fin.ext_iff]
  · rename_i h
    constructor
    · intro heq
      cases heq
    · intro heq
      exact absurd (heq ▸ b.isLt) h

/-- Bits give a magnitude unless they are those of infinity or beyond. -/
theorem ofBits?_isSome_iff {bits : Nat} :
    (ofBits? bits).isSome = true ↔ bits < 0x7FF0000000000000 := by
  unfold ofBits?
  split <;> simp_all

/-- Zero is read as zero. -/
theorem nearest?_zero (den : Nat) : nearest? 0 den = some ⟨0, by decide⟩ := by
  unfold nearest?
  rw [if_pos rfl]

/-- A fraction above zero is read as the magnitude with the nearest bits. -/
theorem nearest?_eq {num : Nat} (hnum : 0 < num) (den : Nat) :
    nearest? num den = ofBits? (nearestBits num den) := by
  unfold nearest?
  rw [if_neg (Nat.pos_iff_ne_zero.1 hnum)]
  rfl

theorem tenTo_pos (e : Nat) : 0 < tenTo e := Nat.pow_pos (by decide)

theorem tenTo_add (a b : Nat) : tenTo (a + b) = tenTo a * tenTo b := Nat.pow_add 10 a b

theorem tenTo_mono {a b : Nat} (h : a ≤ b) : tenTo a ≤ tenTo b :=
  Nat.pow_le_pow_right (by decide) h

/-! ### The values of bits -/

/-- The value of bits that are given as a multiple of a power of two with at most 54 bits. -/
theorem units_of_aligned {unit r : Nat} (h : unit = 0 ∨ leadingBit ≤ r) (hr : r ≤ 2 * leadingBit) :
    units (unit * leadingBit + r) = r * 2 ^ unit := by
  have hL : leadingBit = 4503599627370496 := rfl
  unfold units
  by_cases hlow : r < leadingBit
  · obtain rfl : unit = 0 := by omega
    have hquot : r / leadingBit = 0 := Nat.div_eq_of_lt hlow
    simp [hlow, hquot]
  · rcases Nat.lt_or_ge r (2 * leadingBit) with hlt | hge
    · have hquot : (unit * leadingBit + r) / leadingBit = unit + 1 := by
        rw [hL] at hlow hlt ⊢
        omega
      have hrest : (unit * leadingBit + r) % leadingBit + leadingBit = r := by
        rw [hL] at hlow hlt ⊢
        omega
      rw [if_neg (by omega), hquot, hrest, Nat.add_sub_cancel]
    · -- the next power of two has a significand with one bit only
      obtain rfl : r = 2 * leadingBit := by omega
      have hquot : (unit * leadingBit + 2 * leadingBit) / leadingBit = unit + 2 := by
        rw [hL]
        omega
      have hrest : (unit * leadingBit + 2 * leadingBit) % leadingBit = 0 := by
        rw [hL]
        omega
      rw [if_neg (by omega), hquot, hrest, Nat.zero_add]
      have hpow : 2 ^ (unit + 2 - 1) = 2 * 2 ^ unit := by
        rw [show unit + 2 - 1 = unit + 1 by omega, Nat.pow_succ, Nat.mul_comm]
      rw [hpow]
      ring

/-- All bits are given in this way. -/
theorem exists_aligned (bits : Nat) : ∃ unit r, bits = unit * leadingBit + r ∧
    (unit = 0 ∨ leadingBit ≤ r) ∧ r < 2 * leadingBit := by
  have hL : leadingBit = 4503599627370496 := rfl
  by_cases hlow : bits < leadingBit
  · exact ⟨0, bits, by omega, .inl rfl, by omega⟩
  · refine ⟨bits / leadingBit - 1, bits % leadingBit + leadingBit, ?_, .inr (by omega), ?_⟩
    · rw [hL] at hlow ⊢
      omega
    · rw [hL]
      omega

/-- Bits that follow one another differ by a power of two, which is at most the value of the
greater one over `2 ^ 52`, and at least that of the smaller one over `2 ^ 53`. -/
theorem units_succ (bits : Nat) : ∃ unit, units (bits + 1) = units bits + 2 ^ unit ∧
    units bits < 2 ^ 53 * 2 ^ unit := by
  obtain ⟨unit, r, rfl, halign, hr⟩ := exists_aligned bits
  refine ⟨unit, ?_, ?_⟩
  · rw [units_of_aligned halign (by omega), Nat.add_assoc,
      units_of_aligned (by omega) (by omega)]
    ring
  · rw [units_of_aligned halign (by omega)]
    have hr' : r < 2 ^ 53 := hr
    exact Nat.mul_lt_mul_of_pos_right hr' (Nat.two_pow_pos unit)

/-- The next bits say more units. -/
theorem units_lt_succ (bits : Nat) : units bits < units (bits + 1) := by
  obtain ⟨unit, hsucc, _⟩ := units_succ bits
  have := Nat.two_pow_pos unit
  omega

/-- Greater bits say more units. -/
theorem units_strictMono {a b : Nat} (h : a < b) : units a < units b := by
  induction b with
  | zero => omega
  | succ b ih =>
    rcases Nat.lt_or_ge a b with hlt | hge
    · exact (ih hlt).trans (units_lt_succ b)
    · obtain rfl : a = b := by omega
      exact units_lt_succ a

/-- Bits that are no smaller say no fewer units. -/
theorem units_mono {a b : Nat} (h : a ≤ b) : units a ≤ units b := by
  rcases Nat.lt_or_ge a b with hlt | hge
  · exact (units_strictMono hlt).le
  · rw [Nat.le_antisymm h hge]

/-- The step below a value is at least the value over `2 ^ 53`. -/
theorem units_le_step (bits : Nat) :
    units (bits + 1) ≤ 2 ^ 53 * (units (bits + 1) - units bits) := by
  obtain ⟨unit, r, rfl, halign, hr⟩ := exists_aligned bits
  have hthis := units_of_aligned halign hr.le
  have hnext : units (unit * leadingBit + (r + 1)) = (r + 1) * 2 ^ unit :=
    units_of_aligned (by omega) (by omega)
  have hstep : (r + 1) * 2 ^ unit - r * 2 ^ unit = 2 ^ unit := by
    rw [Nat.succ_mul, Nat.add_sub_cancel_left]
  have hr' : r + 1 ≤ 2 ^ 53 := by
    rw [leadingBit] at hr
    omega
  rw [Nat.add_assoc, hthis, hnext, hstep]
  exact Nat.mul_le_mul_right _ hr'

/-- Powers of two on the two sides of a difference. -/
theorem pow_sub_mul_pow (k m : Nat) : 2 ^ (k - m) * 2 ^ m = 2 ^ k * 2 ^ (m - k) := by
  rw [← Nat.pow_add, ← Nat.pow_add]
  congr 1
  omega

/-- The value of a magnitude as a quotient. -/
theorem numerator_mul (b : Magnitude) :
    numerator b * unitsInOne = units b.val * denominator b := by
  have hunits : units b.val = significand b * 2 ^ scale b := rfl
  rw [hunits]
  unfold numerator denominator unitsInOne
  generalize 1074 = m
  rw [Nat.shiftLeft_eq, Nat.shiftLeft_eq, Nat.one_mul, Nat.mul_assoc, Nat.mul_assoc,
    pow_sub_mul_pow]

/-- The denominator of a magnitude is above zero. -/
theorem denominator_pos (b : Magnitude) : 0 < denominator b := by
  rw [denominator, Nat.shiftLeft_eq, Nat.one_mul]
  exact Nat.two_pow_pos _

/-- So is the numerator, unless the magnitude is zero. -/
theorem numerator_pos {b : Magnitude} (hb : 0 < b.val) : 0 < numerator b := by
  have hunits : 0 < units b.val := (Nat.zero_le _).trans_lt (units_strictMono hb)
  have hprod := Nat.mul_pos hunits (denominator_pos b)
  rw [← numerator_mul b] at hprod
  exact Nat.pos_of_mul_pos_right hprod

/-! ### Rounding quotients -/

/-- A rounded quotient is within a half, and even where it is a half away. -/
theorem roundQuotient_spec (num : Nat) {den : Nat} (hden : 0 < den) :
    2 * num ≤ (2 * roundQuotient num den + 1) * den ∧
      2 * roundQuotient num den * den ≤ 2 * num + den ∧
      (2 * num = (2 * roundQuotient num den + 1) * den ∨
        2 * roundQuotient num den * den = 2 * num + den → roundQuotient num den % 2 = 0) := by
  have hdiv : den * (num / den) + num % den = num := Nat.div_add_mod num den
  have hmod : num % den < den := Nat.mod_lt _ hden
  generalize hlow : num / den = low at hdiv
  generalize hrest : num % den = rest at hdiv hmod
  have hlow' : (2 * low + 1) * den = 2 * (den * low) + den := by ring
  have hlow'' : 2 * low * den = 2 * (den * low) := by ring
  have hup : (2 * (low + 1) + 1) * den = 2 * (den * low) + 3 * den := by ring
  have hup' : 2 * (low + 1) * den = 2 * (den * low) + 2 * den := by ring
  unfold roundQuotient
  simp only [hlow, hrest]
  split
  · refine ⟨by omega, by omega, ?_⟩
    omega
  · split
    · refine ⟨by omega, by omega, ?_⟩
      omega
    · split
      · refine ⟨by omega, by omega, ?_⟩
        omega
      · refine ⟨by omega, by omega, ?_⟩
        omega

/-- Numerator and denominator may be multiplied by the same number. -/
theorem roundQuotient_mul_right (num den : Nat) {k : Nat} (hk : 0 < k) :
    roundQuotient (num * k) (den * k) = roundQuotient num den := by
  have hlt : ∀ a b : Nat, a * k < b * k ↔ a < b := fun a b => Nat.mul_lt_mul_right hk
  unfold roundQuotient
  simp only [Nat.mul_div_mul_right _ _ hk, Nat.mul_mod_mul_right, ← Nat.mul_assoc, hlt]

/-- The order of a quotient, with the powers of two on the side where they are whole. -/
theorem binaryOrder_spec {num den : Nat} (hnum : 0 < num) (hden : 0 < den) :
    den * 2 ^ (binaryOrder num den).toNat ≤ num * 2 ^ (-binaryOrder num den).toNat ∧
      num * 2 ^ (-binaryOrder num den).toNat < 2 * (den * 2 ^ (binaryOrder num den).toNat) := by
  have hnum₁ := Nat.log2_self_le (Nat.pos_iff_ne_zero.1 hnum)
  have hnum₂ := Nat.lt_log2_self (n := num)
  have hden₁ := Nat.log2_self_le (Nat.pos_iff_ne_zero.1 hden)
  have hden₂ := Nat.lt_log2_self (n := den)
  unfold binaryOrder
  simp only [Nat.shiftLeft_eq]
  generalize Nat.log2 num = a at hnum₁ hnum₂
  generalize Nat.log2 den = b at hden₁ hden₂
  generalize hest : ((a : Int) - (b : Int)) = est
  -- both sides are within a factor of two of the same power of two
  have hexp : b + est.toNat = a + (-est).toNat := by omega
  have hupper : den * 2 ^ est.toNat < 2 * (num * 2 ^ (-est).toNat) := by
    calc den * 2 ^ est.toNat < 2 ^ (b + 1) * 2 ^ est.toNat :=
          Nat.mul_lt_mul_of_pos_right hden₂ (Nat.two_pow_pos _)
      _ = 2 * (2 ^ a * 2 ^ (-est).toNat) := by
          rw [← Nat.pow_add, ← Nat.pow_add, ← hexp, Nat.add_right_comm, Nat.pow_succ, Nat.mul_comm]
      _ ≤ 2 * (num * 2 ^ (-est).toNat) :=
          Nat.mul_le_mul_left _ (Nat.mul_le_mul_right _ hnum₁)
  have hlower : num * 2 ^ (-est).toNat < 2 * (den * 2 ^ est.toNat) := by
    calc num * 2 ^ (-est).toNat < 2 ^ (a + 1) * 2 ^ (-est).toNat :=
          Nat.mul_lt_mul_of_pos_right hnum₂ (Nat.two_pow_pos _)
      _ = 2 * (2 ^ b * 2 ^ est.toNat) := by
          rw [← Nat.pow_add, ← Nat.pow_add, hexp, Nat.add_right_comm, Nat.pow_succ, Nat.mul_comm]
      _ ≤ 2 * (den * 2 ^ est.toNat) :=
          Nat.mul_le_mul_left _ (Nat.mul_le_mul_right _ hden₁)
  split
  · exact ⟨‹_›, hlower⟩
  · rename_i hnot
    rcases Int.lt_or_le 0 est with hpos | hneg
    · obtain ⟨k, rfl⟩ : ∃ k : Nat, est = k + 1 := ⟨(est - 1).toNat, by omega⟩
      have hk : ((k : Int) + 1).toNat = k + 1 := by omega
      have hk' : (-((k : Int) + 1)).toNat = 0 := by omega
      have hj : ((k : Int) + 1 - 1).toNat = k := by omega
      have hj' : (-((k : Int) + 1 - 1)).toNat = 0 := by omega
      rw [hk, hk', Nat.pow_succ, ← Nat.mul_assoc] at hupper hlower hnot
      rw [hj, hj']
      omega
    · obtain ⟨k, rfl⟩ : ∃ k : Nat, est = -k := ⟨(-est).toNat, by omega⟩
      have hk : (-(k : Int)).toNat = 0 := by omega
      have hk' : (- -(k : Int)).toNat = k := by omega
      have hj : (-(k : Int) - 1).toNat = 0 := by omega
      have hj' : (-(-(k : Int) - 1)).toNat = k + 1 := by omega
      rw [hk, hk'] at hupper hlower hnot
      rw [hj, hj', Nat.pow_succ, ← Nat.mul_assoc]
      omega

/-- The power of two that a quotient is rounded to: the quotient has at most 53 bits before the
point then, and 53 unless the power is the smallest. -/
theorem unitOf_spec {num den : Nat} (hnum : 0 < num) (hden : 0 < den) :
    num * unitsInOne < den * 2 ^ (unitOf num den + 53) ∧
      (unitOf num den = 0 ∨ den * 2 ^ (unitOf num den + 52) ≤ num * unitsInOne) := by
  obtain ⟨hle, hlt⟩ := binaryOrder_spec hnum hden
  unfold unitOf
  generalize binaryOrder num den = order at hle hlt
  generalize hunit : (order - 52 + 1074).toNat = unit
  have hback : 0 < 2 ^ (-order).toNat := Nat.two_pow_pos _
  have hone : ∀ k, 2 ^ (k + 1074) = 2 ^ k * unitsInOne := by
    intro k
    rw [unitsInOne, ← Nat.pow_add]
  constructor
  · apply Nat.lt_of_mul_lt_mul_right (a := 2 ^ (-order).toNat)
    calc num * unitsInOne * 2 ^ (-order).toNat = num * 2 ^ (-order).toNat * unitsInOne :=
          Nat.mul_right_comm _ _ _
      _ < 2 * (den * 2 ^ order.toNat) * unitsInOne := Nat.mul_lt_mul_of_pos_right hlt unitsInOne_pos
      _ = den * 2 ^ (order.toNat + 1 + 1074) := by
          rw [hone, Nat.pow_succ]
          ring
      _ ≤ den * 2 ^ (unit + 53 + (-order).toNat) :=
          Nat.mul_le_mul_left _ (Nat.pow_le_pow_right (by decide) (by omega))
      _ = den * 2 ^ (unit + 53) * 2 ^ (-order).toNat := by rw [Nat.pow_add, Nat.mul_assoc]
  · rcases Nat.eq_zero_or_pos unit with hzero | hunitpos
    · exact .inl hzero
    · refine .inr (Nat.le_of_mul_le_mul_right ?_ hback)
      have hexp : unit + 52 + (-order).toNat = order.toNat + 1074 := by omega
      calc den * 2 ^ (unit + 52) * 2 ^ (-order).toNat = den * 2 ^ (order.toNat + 1074) := by
            rw [Nat.mul_assoc, ← Nat.pow_add, hexp]
        _ = den * 2 ^ order.toNat * unitsInOne := by rw [hone, Nat.mul_assoc]
        _ ≤ num * 2 ^ (-order).toNat * unitsInOne := Nat.mul_le_mul_right _ hle
        _ = num * unitsInOne * 2 ^ (-order).toNat := Nat.mul_right_comm _ _ _

/-- A quotient is rounded to a multiple of the power of two. -/
theorem nearestBits_eq (num den : Nat) :
    nearestBits num den = unitOf num den * leadingBit +
      roundQuotient (num * unitsInOne) (den * 2 ^ unitOf num den) := by
  unfold nearestBits unitsInOne
  generalize unitOf num den = unit
  generalize 1074 = m
  rw [Nat.shiftLeft_eq, Nat.shiftLeft_eq]
  congr 1
  -- both sides of the quotient carry the smaller one of the two powers
  have hmin : 0 < 2 ^ min unit m := Nat.two_pow_pos _
  have hnum : num * 2 ^ m = num * 2 ^ (m - unit) * 2 ^ min unit m := by
    rw [Nat.mul_assoc, ← Nat.pow_add]
    congr 2
    omega
  have hden : den * 2 ^ unit = den * 2 ^ (unit - m) * 2 ^ min unit m := by
    rw [Nat.mul_assoc, ← Nat.pow_add]
    congr 2
    omega
  rw [hnum, hden, roundQuotient_mul_right _ _ hmin]

/-- Where a quotient lies that is rounded to `c`, with `n / den` its value in units: between the
middles of the steps on both sides, and in the middle of one only if `c` is even. -/
structure Nearest (n den c : Nat) : Prop where
  below : 2 * n ≤ (units c + units (c + 1)) * den
  above : ∀ p, c = p + 1 → (units p + units c) * den ≤ 2 * n
  even_below : 2 * n = (units c + units (c + 1)) * den → c % 2 = 0
  even_above : ∀ p, c = p + 1 → (units p + units c) * den = 2 * n → c % 2 = 0

/-- A quotient `n / den` in units, and the multiple `r` of a power of two to which it is rounded:
the quotient has at most 53 bits before the point, and 53 unless the power is the smallest. -/
structure Rounded (n den unit r : Nat) : Prop where
  den_pos : 0 < den
  upper : n < den * 2 ^ (unit + 53)
  lower : unit = 0 ∨ den * 2 ^ (unit + 52) ≤ n
  up : 2 * n ≤ (2 * r + 1) * (den * 2 ^ unit)
  low : 2 * r * (den * 2 ^ unit) ≤ 2 * n + den * 2 ^ unit
  tie : 2 * n = (2 * r + 1) * (den * 2 ^ unit) ∨
    2 * r * (den * 2 ^ unit) = 2 * n + den * 2 ^ unit → r % 2 = 0

namespace Rounded

variable {n den unit r : Nat}

/-- The rounded quotient has 53 bits at most, or is the next power of two. -/
theorem le_leadingBit (h : Rounded n den unit r) : r ≤ 2 * leadingBit := by
  have hupper := h.upper
  have hlow := h.low
  have hlt : 2 * r * (den * 2 ^ unit) < (2 * 2 ^ 53 + 1) * (den * 2 ^ unit) := by
    rw [Nat.pow_add, ← Nat.mul_assoc] at hupper
    linarith
  have := Nat.lt_of_mul_lt_mul_right hlt
  unfold leadingBit
  omega

/-- The rounded quotient has 53 bits unless the power of two is the smallest. -/
theorem aligned (h : Rounded n den unit r) : unit = 0 ∨ leadingBit ≤ r := by
  apply h.lower.imp_right
  intro hlower
  have hup := h.up
  have hle : 2 * 2 ^ 52 * (den * 2 ^ unit) ≤ (2 * r + 1) * (den * 2 ^ unit) := by
    rw [Nat.pow_add, ← Nat.mul_assoc] at hlower
    linarith
  have := Nat.le_of_mul_le_mul_right hle (Nat.mul_pos h.den_pos (Nat.two_pow_pos _))
  unfold leadingBit
  omega

/-- The bits of a rounded fraction say the rounded number of units. -/
theorem units_eq (h : Rounded n den unit r) : units (unit * leadingBit + r) = r * 2 ^ unit :=
  units_of_aligned h.aligned h.le_leadingBit

/-- The middle of the step above, if the exponent stays the same. -/
theorem middle_above (h : Rounded n den unit r) (hr : r < 2 * leadingBit) :
    (units (unit * leadingBit + r) + units (unit * leadingBit + r + 1)) * den =
      (2 * r + 1) * (den * 2 ^ unit) := by
  have haligned := h.aligned
  have hnext : units (unit * leadingBit + r + 1) = (r + 1) * 2 ^ unit := by
    rw [Nat.add_assoc, units_of_aligned (by omega) (by omega)]
  rw [h.units_eq, hnext]
  ring

/-- A quotient that is rounded up to a power of two is below it. -/
theorem lt_middle_above (h : Rounded n den unit r) (hr : r = 2 * leadingBit) :
    2 * n < (units (unit * leadingBit + r) + units (unit * leadingBit + r + 1)) * den := by
  have hn : n < units (unit * leadingBit + r) * den := by
    rw [h.units_eq, hr]
    apply h.upper.trans_eq
    rw [Nat.pow_add, leadingBit]
    ring
  have := Nat.mul_lt_mul_of_pos_right (units_lt_succ (unit * leadingBit + r)) h.den_pos
  rw [Nat.add_mul]
  omega

/-- The middle of the step below, if the exponent stays the same. -/
theorem middle_below (h : Rounded n den unit r) {p : Nat} (hp : unit * leadingBit + r = p + 1)
    (hinner : unit = 0 ∨ leadingBit < r) :
    (units p + units (unit * leadingBit + r)) * den + den * 2 ^ unit =
      2 * r * (den * 2 ^ unit) := by
  have hle := h.le_leadingBit
  have hone : 0 < r := by
    rcases hinner with rfl | hr
    · omega
    · omega
  obtain ⟨q, rfl⟩ : ∃ q, r = q + 1 := ⟨r - 1, by omega⟩
  have hprev : units p = q * 2 ^ unit := by
    obtain rfl : p = unit * leadingBit + q := by omega
    exact units_of_aligned (by omega) (by omega)
  rw [h.units_eq, hprev]
  ring

/-- A quotient that is rounded to a power of two is not below it. -/
theorem middle_below_lt (h : Rounded n den unit r) {p : Nat} (hp : unit * leadingBit + r = p + 1)
    (hpos : 0 < unit) (hr : r = leadingBit) :
    (units p + units (unit * leadingBit + r)) * den < 2 * n := by
  have hn : units (unit * leadingBit + r) * den ≤ n := by
    rw [h.units_eq, hr]
    refine Eq.trans_le ?_ (h.lower.resolve_left (by omega))
    rw [Nat.pow_add, leadingBit]
    ring
  have hlt : units p < units (unit * leadingBit + r) := by
    rw [hp]
    exact units_lt_succ p
  have := Nat.mul_lt_mul_of_pos_right hlt h.den_pos
  rw [Nat.add_mul]
  omega

/-- The bits of the rounded quotient are nearest to it. -/
theorem nearest (h : Rounded n den unit r) : Nearest n den (unit * leadingBit + r) := by
  have hup := h.up
  have hlow := h.low
  have hle := h.le_leadingBit
  have haligned := h.aligned
  have hparity : (unit * leadingBit + r) % 2 = r % 2 := by
    unfold leadingBit
    omega
  -- on either side the neighbour has the same exponent, or the quotient is on the near side of `r`
  constructor
  case below =>
    rcases Nat.lt_or_eq_of_le hle with hlt | hlast
    · rw [h.middle_above hlt]
      exact hup
    · exact (h.lt_middle_above hlast).le
  case above =>
    intro p hp
    by_cases hinner : unit = 0 ∨ leadingBit < r
    · have := h.middle_below hp hinner
      omega
    · exact (h.middle_below_lt hp (by omega) (by omega)).le
  case even_below =>
    intro heq
    rw [hparity]
    rcases Nat.lt_or_eq_of_le hle with hlt | hlast
    · exact h.tie (.inl (heq.trans (h.middle_above hlt)))
    · have := h.lt_middle_above hlast
      omega
  case even_above =>
    intro p hp heq
    rw [hparity]
    by_cases hinner : unit = 0 ∨ leadingBit < r
    · have := h.middle_below hp hinner
      exact h.tie (.inr (by omega))
    · have := h.middle_below_lt hp (by omega) (by omega)
      omega

end Rounded

/-- Rounding a quotient gives the bits nearest to it. -/
theorem nearestBits_spec {num den : Nat} (hnum : 0 < num) (hden : 0 < den) :
    Nearest (num * unitsInOne) den (nearestBits num den) := by
  obtain ⟨hupper, hlower⟩ := unitOf_spec hnum hden
  have hstep : 0 < den * 2 ^ unitOf num den := Nat.mul_pos hden (Nat.two_pow_pos _)
  obtain ⟨hup, hlow, htie⟩ := roundQuotient_spec (num * unitsInOne) hstep
  rw [nearestBits_eq]
  exact Rounded.nearest ⟨hden, hupper, hlower, hup, hlow, htie⟩

/-- A quotient that is closer to one value than to those of its neighbours is rounded to it. -/
theorem nearestBits_eq_of_between {num den c : Nat} (hnum : 0 < num) (hden : 0 < den)
    (hbelow : 2 * (num * unitsInOne) < (units c + units (c + 1)) * den)
    (habove : ∀ p, c = p + 1 → (units p + units c) * den < 2 * (num * unitsInOne)) :
    nearestBits num den = c := by
  have hspec := nearestBits_spec hnum hden
  generalize nearestBits num den = bits at hspec
  rcases Nat.lt_trichotomy bits c with hlt | heq | hgt
  · -- the quotient is above the middle of a step that lies below `c`
    obtain ⟨p, rfl⟩ : ∃ p, c = p + 1 := ⟨c - 1, by omega⟩
    have hle : units bits + units (bits + 1) ≤ units p + units (p + 1) :=
      Nat.add_le_add (units_mono (by omega)) (units_mono (by omega))
    have := hspec.below.trans (Nat.mul_le_mul_right den hle)
    have := habove p rfl
    omega
  · exact heq
  · obtain ⟨p, rfl⟩ : ∃ p, bits = p + 1 := ⟨bits - 1, by omega⟩
    have hle : units c + units (c + 1) ≤ units p + units (p + 1) :=
      Nat.add_le_add (units_mono (by omega)) (units_mono (by omega))
    have := (Nat.mul_le_mul_right den hle).trans (hspec.above p rfl)
    omega

/-- A greater quotient is not rounded to smaller bits. -/
theorem nearestBits_mono {num den num' den' : Nat} (hnum : 0 < num) (hden : 0 < den)
    (hnum' : 0 < num') (hden' : 0 < den') (hle : num * den' ≤ num' * den) :
    nearestBits num den ≤ nearestBits num' den' := by
  have hspec := nearestBits_spec hnum hden
  have hspec' := nearestBits_spec hnum' hden'
  generalize nearestBits num den = bits at hspec ⊢
  generalize nearestBits num' den' = bits' at hspec' ⊢
  by_contra hgt
  obtain ⟨p, rfl⟩ : ∃ p, bits = p + 1 := ⟨bits - 1, by omega⟩
  have habove := Nat.mul_le_mul_right den' (hspec.above p rfl)
  have hbelow := Nat.mul_le_mul_right den hspec'.below
  have hlink : 2 * (num * unitsInOne) * den' ≤ 2 * (num' * unitsInOne) * den := by
    calc 2 * (num * unitsInOne) * den' = 2 * (num * den') * unitsInOne := by ring
      _ ≤ 2 * (num' * den) * unitsInOne := Nat.mul_le_mul_right _ (Nat.mul_le_mul_left _ hle)
      _ = 2 * (num' * unitsInOne) * den := by ring
  have hcomm : ∀ x : Nat, x * den' * den = x * den * den' := fun x => Nat.mul_right_comm _ _ _
  rw [hcomm] at hbelow
  -- so both quotients lie in the middle of the one step between the two values
  have hsum : units p + units (p + 1) ≤ units bits' + units (bits' + 1) :=
    Nat.le_of_mul_le_mul_right
      (Nat.le_of_mul_le_mul_right (habove.trans (hlink.trans hbelow)) hden') hden
  obtain rfl : p = bits' := by
    by_contra hne
    have := units_strictMono (a := bits') (b := p) (by omega)
    have := units_mono (a := bits' + 1) (b := p + 1) (by omega)
    omega
  have heven : (p + 1) % 2 = 0 :=
    hspec.even_above p rfl (Nat.eq_of_mul_eq_mul_right hden' (by omega))
  have heven' : p % 2 = 0 := by
    refine hspec'.even_below (Nat.eq_of_mul_eq_mul_right hden ?_)
    rw [hcomm]
    omega
  omega

/-- A quotient that is no greater than one with a finite rounding has a finite rounding too. -/
theorem nearest?_isSome_of_le {num den num' den' : Nat} (hden : 0 < den) (hden' : 0 < den')
    (hle : num * den' ≤ num' * den) (hfinite : (nearest? num' den').isSome = true) :
    (nearest? num den).isSome = true := by
  rcases Nat.eq_zero_or_pos num with rfl | hnum
  · rw [nearest?_zero]
    rfl
  · have hnum' : 0 < num' := by
      have := (Nat.mul_pos hnum hden').trans_le hle
      exact Nat.pos_of_mul_pos_right this
    have hmono := nearestBits_mono hnum hden hnum' hden' hle
    rw [nearest?_eq hnum', ofBits?_isSome_iff] at hfinite
    rw [nearest?_eq hnum, ofBits?_isSome_iff]
    exact hmono.trans_lt hfinite

/-- Of two quotients with finite roundings the greater one has the greater rounding. -/
theorem val_le_of_nearest?_eq_some {num den num' den' : Nat} {b b' : Magnitude} (hden : 0 < den)
    (hden' : 0 < den') (hle : num * den' ≤ num' * den) (hb : nearest? num den = some b)
    (hb' : nearest? num' den' = some b') : b.val ≤ b'.val := by
  rcases Nat.eq_zero_or_pos num with rfl | hnum
  · rw [nearest?_zero] at hb
    rw [← Option.some.inj hb]
    exact Nat.zero_le _
  · have hnum' : 0 < num' := by
      have := (Nat.mul_pos hnum hden').trans_le hle
      exact Nat.pos_of_mul_pos_right this
    have hmono := nearestBits_mono hnum hden hnum' hden' hle
    rw [nearest?_eq hnum, ofBits?_eq_some_iff] at hb
    rw [nearest?_eq hnum', ofBits?_eq_some_iff] at hb'
    omega

end Double

end SilentAuth
