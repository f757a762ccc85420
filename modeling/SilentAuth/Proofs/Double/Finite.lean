import SilentAuth.Proofs.Double.Shortest

/-!
# The decimals of doubles are read to doubles

A decimal is read in two roundings, of its digits and of their product with a power of ten, so what
is read need not be the double that was written. It is finite all the same: only a product close to
the greatest double could be too great, and there the digits that are written are small enough.

* `Double.ofDecimal?_isSome_of_neg`: decimals with places after the point.
* `Double.ofDecimal?_shortest_isSome`: the shortest decimal of a magnitude.
-/

namespace SilentAuth

namespace Double

/-! ### Products and quotients of magnitudes -/

/-- The greater bits have the greater value. -/
theorem numerator_mul_le {a b : Magnitude} (h : a.val ≤ b.val) :
    numerator a * denominator b ≤ numerator b * denominator a := by
  refine Nat.le_of_mul_le_mul_right ?_ unitsInOne_pos
  calc numerator a * denominator b * unitsInOne
      = units a.val * (denominator a * denominator b) := by
        rw [Nat.mul_right_comm, numerator_mul, Nat.mul_assoc]
    _ ≤ units b.val * (denominator a * denominator b) := Nat.mul_le_mul_right _ (units_mono h)
    _ = numerator b * denominator a * unitsInOne := by
        rw [Nat.mul_right_comm, numerator_mul, Nat.mul_assoc, Nat.mul_comm (denominator b)]

/-- A product is finite if a product with a greater factor is. -/
theorem mul?_isSome_of_le {a b c : Magnitude} (h : a.val ≤ b.val)
    (hfinite : (mul? b c).isSome = true) : (mul? a c).isSome = true := by
  have hden : ∀ d : Magnitude, 0 < denominator d * denominator c :=
    fun d => Nat.mul_pos (denominator_pos d) (denominator_pos c)
  refine nearest?_isSome_of_le (hden a) (hden b) ?_ hfinite
  calc numerator a * numerator c * (denominator b * denominator c)
      = numerator a * denominator b * (numerator c * denominator c) := by ring
    _ ≤ numerator b * denominator a * (numerator c * denominator c) :=
        Nat.mul_le_mul_right _ (numerator_mul_le h)
    _ = numerator b * numerator c * (denominator a * denominator c) := by ring

/-- A quotient by one or more is finite. -/
theorem div?_isSome {a c : Magnitude} (hone : denominator c ≤ numerator c) :
    (div? a c).isSome = true := by
  have hnum : 0 < numerator c := (denominator_pos c).trans_le hone
  refine nearest?_isSome_of_le (Nat.mul_pos (denominator_pos a) hnum) (denominator_pos a) ?_
    (by rw [nearest?_self]; rfl)
  calc numerator a * denominator c * denominator a
      ≤ numerator a * numerator c * denominator a :=
        Nat.mul_le_mul_right _ (Nat.mul_le_mul_left _ hone)
    _ = numerator a * (denominator a * numerator c) := by ring

/-! ### Digits and powers of ten -/

/-- Powers of ten up to the 308th are finite. -/
theorem powerOfTen?_isSome {e : Nat} (he : e ≤ 308) : (powerOfTen? e).isSome = true := by
  have hgreatest : (nearest? (tenTo 308) 1).isSome = true := by decide +kernel
  have hmono : tenTo e ≤ tenTo 308 := tenTo_mono he
  exact nearest?_isSome_of_le Nat.one_pos Nat.one_pos (by omega) hgreatest

/-- Powers of ten are at least one. -/
theorem denominator_le_of_powerOfTen? {e : Nat} {c : Magnitude} (h : powerOfTen? e = some c) :
    denominator c ≤ numerator c := by
  have hone : nearest? 1 1 = some ⟨0x3FF0000000000000, by decide⟩ := by decide +kernel
  have hle := val_le_of_nearest?_eq_some Nat.one_pos Nat.one_pos
    (by have := tenTo_pos e; omega) hone h
  have hvalue := numerator_mul_le hle
  have hnum : numerator ⟨0x3FF0000000000000, by decide⟩ =
      denominator ⟨0x3FF0000000000000, by decide⟩ := by decide +kernel
  rw [hnum, Nat.mul_comm] at hvalue
  exact Nat.le_of_mul_le_mul_right hvalue (denominator_pos _)

/-- Numbers of 64 bits are finite. -/
theorem nearest?_isSome_of_lt {n : Nat} (hn : n < 0x10000000000000000) :
    (nearest? n 1).isSome = true := by
  have hgreatest : (nearest? 0x10000000000000000 1).isSome = true := by decide +kernel
  exact nearest?_isSome_of_le Nat.one_pos Nat.one_pos (by omega) hgreatest

/-- Digits of 64 bits with places after the point are read. -/
theorem ofDecimal?_isSome_of_neg {digits : Nat} (hdigits : digits < 0x10000000000000000)
    {exponent : Int} (hneg : exponent < 0) : (ofDecimal? digits exponent).isSome = true := by
  obtain ⟨value, hvalue⟩ := Option.isSome_iff_exists.1 (nearest?_isSome_of_lt hdigits)
  have hdivide : ∀ (a : Magnitude) {e : Nat}, e ≤ 308 →
      ∃ c, powerOfTen? e = some c ∧ (div? a c).isSome = true := by
    intro a e he
    obtain ⟨c, hc⟩ := Option.isSome_iff_exists.1 (powerOfTen?_isSome he)
    exact ⟨c, hc, div?_isSome (denominator_le_of_powerOfTen? hc)⟩
  unfold ofDecimal?
  rw [hvalue]
  simp only [Option.bind_eq_bind, Option.bind_some, if_neg (Int.not_le.2 hneg)]
  split
  · rename_i hplaces
    obtain ⟨c, hc, hfinite⟩ := hdivide value hplaces
    rw [hc]
    exact hfinite
  · split
    · -- a quotient by the greatest power, and a second one
      obtain ⟨c, hc, hfinite⟩ := hdivide value le_rfl
      obtain ⟨first, hfirst⟩ := Option.isSome_iff_exists.1 hfinite
      obtain ⟨c', hc', hfinite'⟩ := hdivide first (e := (-exponent).toNat - 308) (by omega)
      rw [hc, Option.bind_some, hfirst, Option.bind_some, hc']
      exact hfinite'
    · rfl

/-! ### The greatest doubles -/

/-- The least number that is rounded beyond the doubles. -/
def overflow : Nat := 1 <<< 1024 - 1 <<< 970

/-- Digits up to which a decimal with a power of ten is read, among those with seventeen places. For
one power this is less than what the rounding of the exact value allows, by one. -/
def readableDigits (exponent : Nat) : Nat :=
  if exponent = 292 then 17976931348623157 else min (tenTo 17) (overflow / tenTo exponent)

/-- For every exponent there are digits with which it is read as a double. -/
theorem ofDecimal?_readableDigits : ∀ exponent : Fin 309,
    (ofDecimal? (readableDigits exponent) (exponent : Nat)).isSome = true := by
  decide +kernel

/-- Fewer digits are read too. -/
theorem ofDecimal?_isSome_of_le {digits digits' exponent : Nat} (hle : digits ≤ digits')
    (hexponent : exponent ≤ 308) (hfinite : (ofDecimal? digits' (exponent : Nat)).isSome = true) :
    (ofDecimal? digits (exponent : Nat)).isSome = true := by
  have hnonneg : (0 : Int) ≤ (exponent : Nat) := by omega
  have hsmall : ((exponent : Nat) : Int) ≤ 308 := by omega
  obtain ⟨c, hc⟩ := Option.isSome_iff_exists.1 (powerOfTen?_isSome hexponent)
  unfold ofDecimal? at hfinite ⊢
  simp only [Option.bind_eq_bind, if_pos hnonneg, if_pos hsmall, Int.toNat_natCast, hc,
    Option.bind_some] at hfinite ⊢
  cases hvalue' : nearest? digits' 1 with
  | none => simp [hvalue'] at hfinite
  | some value' =>
    rw [hvalue', Option.bind_some] at hfinite
    have hgreater : (nearest? digits' 1).isSome = true := by
      rw [hvalue']
      rfl
    have hsome : (nearest? digits 1).isSome = true :=
      nearest?_isSome_of_le Nat.one_pos Nat.one_pos (by omega) hgreater
    obtain ⟨value, hvalue⟩ := Option.isSome_iff_exists.1 hsome
    rw [hvalue, Option.bind_some]
    exact mul?_isSome_of_le
      (val_le_of_nearest?_eq_some Nat.one_pos Nat.one_pos (by omega) hvalue hvalue') hfinite

/-- A decimal that is rounded to a double in one step is less than the least number that is not. -/
theorem lt_overflow_of_nearestDecimal? {digits exponent : Nat} {b : Magnitude}
    (h : nearestDecimal? digits (exponent : Nat) = some b) :
    digits * tenTo exponent < overflow := by
  by_contra hge
  have hnone : (nearest? overflow 1).isSome = false := by decide +kernel
  have hback : (-((exponent : Nat) : Int)).toNat = 0 := by omega
  have hone : tenTo 0 = 1 := rfl
  rw [nearestDecimal?, hback, Int.toNat_natCast, hone] at h
  have hsome : (nearest? overflow 1).isSome = true :=
    nearest?_isSome_of_le Nat.one_pos Nat.one_pos (by omega) (Option.isSome_iff_exists.2 ⟨b, h⟩)
  rw [hnone] at hsome
  cases hsome

/-- Different numbers have different digits. -/
theorem decimalDigits_injective {m n : Nat} (h : decimalDigits m = decimalDigits n) : m = n := by
  rw [← Nat.ofDigitChars_ten_toDigits (n := m), ← Nat.ofDigitChars_ten_toDigits (n := n)]
  unfold decimalDigits at h
  rw [h]

/-- The shortest decimal of a magnitude is read. -/
theorem ofDecimal?_shortest_isSome {b : Magnitude} {digits : Nat} {exponent order : Int}
    (hpos : 0 < digits) (hmax : digits ≤ tenTo 17)
    (hround : nearestDecimal? digits exponent = some b)
    (hshort : shortest b = (decimalDigits digits, order)) :
    (ofDecimal? digits exponent).isSome = true := by
  have htenTo : tenTo 17 = 100000000000000000 := rfl
  rcases Int.lt_or_le exponent 0 with hneg | hnonneg
  · exact ofDecimal?_isSome_of_neg (by omega) hneg
  · obtain ⟨e, rfl⟩ : ∃ e : Nat, exponent = e := ⟨exponent.toNat, by omega⟩
    have hlt := lt_overflow_of_nearestDecimal? hround
    have he : e ≤ 308 := by
      by_contra hgt
      have hgreat : overflow ≤ tenTo 309 := by decide +kernel
      have hmono : tenTo 309 ≤ tenTo e := tenTo_mono (by omega)
      have := Nat.le_mul_of_pos_left (tenTo e) hpos
      omega
    refine ofDecimal?_isSome_of_le ?_ he (ofDecimal?_readableDigits ⟨e, by omega⟩)
    have hquot : digits ≤ overflow / tenTo e :=
      (Nat.le_div_iff_mul_le (tenTo_pos e)).2 hlt.le
    unfold readableDigits
    dsimp only
    split
    · -- the next digits round to the greatest double, which is written with these
      rename_i hspecial
      subst hspecial
      have hbound : overflow / tenTo 292 = 17976931348623158 := by decide +kernel
      by_contra hgt
      obtain rfl : digits = 17976931348623158 := by omega
      have hgreatest : nearestDecimal? 17976931348623158 (292 : Nat) =
          some ⟨0x7FEFFFFFFFFFFFFF, by decide⟩ := by decide +kernel
      have hwritten : (shortest ⟨0x7FEFFFFFFFFFFFFF, by decide⟩).1 =
          decimalDigits 17976931348623157 := by decide +kernel
      rw [hgreatest] at hround
      rw [Option.some.inj hround, hshort] at hwritten
      dsimp only at hwritten
      have := decimalDigits_injective hwritten
      omega
    · exact Nat.le_min.2 ⟨hmax, hquot⟩

end Double

end SilentAuth
