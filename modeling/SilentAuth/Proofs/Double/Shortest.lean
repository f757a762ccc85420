import SilentAuth.Proofs.Double.Rounding

/-!
# The shortest decimal of a magnitude

Seventeen digits are enough to name a positive magnitude, so the search for the shortest decimal
finds one.

* `Double.decimalOrder_spec`: the weight of the first digit of a quotient.
* `Double.onGrid?_isSome`: the decimal with seventeen digits that is nearest to a magnitude rounds
  back to it.
* `Double.shortest_spec`: the digits and the order of the shortest decimal say a number that rounds
  to the magnitude and has at most seventeen digits.
-/

namespace SilentAuth

namespace Double

/-! ### Digits -/

/-- How many digits a positive number has. -/
theorem decimalDigits_length {n : Nat} (hn : 0 < n) :
    ∃ k, (decimalDigits n).length = k + 1 ∧ tenTo k ≤ n ∧ n < tenTo (k + 1) := by
  have hpos : 0 < (decimalDigits n).length := Nat.length_toDigits_pos
  refine ⟨(decimalDigits n).length - 1, by omega, ?_, ?_⟩
  · by_contra hlt
    rcases Nat.eq_zero_or_pos ((decimalDigits n).length - 1) with hzero | hlen
    · rw [hzero] at hlt
      exact hlt hn
    · have := (Nat.length_toDigits_le_iff (b := 10) (by decide) hlen).2 (Nat.not_le.1 hlt)
      unfold decimalDigits at *
      omega
  · have hlen : (decimalDigits n).length - 1 + 1 = (decimalDigits n).length := by omega
    rw [hlen]
    exact (Nat.length_toDigits_le_iff (b := 10) (by decide) hpos).1 le_rfl

/-- The weight of the first digit of a quotient, with the powers of ten on the side where they are
whole. -/
theorem decimalOrder_spec {num den : Nat} (hnum : 0 < num) (hden : 0 < den) :
    den * tenTo (decimalOrder num den).toNat ≤ num * tenTo (-decimalOrder num den).toNat ∧
      num * tenTo (-decimalOrder num den).toNat <
        10 * (den * tenTo (decimalOrder num den).toNat) := by
  unfold decimalOrder
  split
  · rename_i hle
    obtain ⟨k, hk, hlow, hup⟩ := decimalDigits_length (Nat.div_pos hle hden)
    have hto : (((k + 1 : Nat) : Int) - 1).toNat = k := by omega
    have hback : (-(((k + 1 : Nat) : Int) - 1)).toNat = 0 := by omega
    rw [hk, hto, hback]
    have hone : tenTo 0 = 1 := rfl
    have hten : tenTo (k + 1) = tenTo k * 10 := tenTo_add k 1
    rw [hone, Nat.mul_one]
    constructor
    · calc den * tenTo k ≤ den * (num / den) := Nat.mul_le_mul_left _ hlow
        _ ≤ num := Nat.mul_div_le num den
    · have := (Nat.div_lt_iff_lt_mul hden).1 hup
      rw [hten] at this
      linarith
  · rename_i hnot
    have hlt : num < den := Nat.not_le.1 hnot
    obtain ⟨k, hk, hlow, hup⟩ := decimalDigits_length (Nat.div_pos hlt.le hnum)
    have hone : tenTo 0 = 1 := rfl
    have hten : tenTo (k + 1) = tenTo k * 10 := tenTo_add k 1
    have hle : num * tenTo k ≤ den :=
      (Nat.mul_le_mul_left _ hlow).trans (Nat.mul_div_le den num)
    have hlt' : den < num * tenTo (k + 1) := by
      rw [Nat.mul_comm]
      exact (Nat.div_lt_iff_lt_mul hnum).1 hup
    rw [hk]
    dsimp only
    rw [Nat.add_sub_cancel]
    split
    · rename_i hexact
      have hto : (-(((k + 1 : Nat) : Int) - 1)).toNat = 0 := by omega
      have hback : (- -(((k + 1 : Nat) : Int) - 1)).toNat = k := by omega
      rw [hto, hback, hone, Nat.mul_one]
      omega
    · have hto : (-((k + 1 : Nat) : Int)).toNat = 0 := by omega
      have hback : (- -((k + 1 : Nat) : Int)).toNat = k + 1 := by omega
      rw [hto, hback, hone, Nat.mul_one]
      rw [hten] at hlt' ⊢
      constructor
      · exact hlt'.le
      · rw [← Nat.mul_assoc]
        omega

/-! ### Decimals on a grid -/

/-- Quotients of one value have one rounding. -/
theorem nearest?_congr {num den num' den' : Nat} (hden : 0 < den) (hden' : 0 < den')
    (heq : num * den' = num' * den) : nearest? num den = nearest? num' den' := by
  rcases Nat.eq_zero_or_pos num with rfl | hnum
  · have hzero : num' = 0 := by
      rw [Nat.zero_mul] at heq
      exact (Nat.mul_eq_zero.1 heq.symm).resolve_right (by omega)
    rw [hzero, nearest?_zero, nearest?_zero]
  · have hnum' : 0 < num' := by
      have := Nat.mul_pos hnum hden'
      rw [heq] at this
      exact Nat.pos_of_mul_pos_right this
    have hbits : nearestBits num den = nearestBits num' den' :=
      Nat.le_antisymm (nearestBits_mono hnum hden hnum' hden' heq.le)
        (nearestBits_mono hnum' hden' hnum hden heq.ge)
    rw [nearest?_eq hnum, nearest?_eq hnum', hbits]

/-- A magnitude is the rounding of every quotient that is closer to it than to its neighbours. -/
theorem nearest?_eq_some_of_between {num den : Nat} {b : Magnitude} (hnum : 0 < num)
    (hden : 0 < den)
    (hbelow : 2 * (num * unitsInOne) < (units b.val + units (b.val + 1)) * den)
    (habove : ∀ p, b.val = p + 1 → (units p + units b.val) * den < 2 * (num * unitsInOne)) :
    nearest? num den = some b := by
  have hbits := nearestBits_eq_of_between hnum hden hbelow habove
  rw [nearest?_eq hnum, hbits, ofBits?_eq_some_iff]

/-- The value of a magnitude is rounded to the magnitude. -/
theorem nearest?_self (b : Magnitude) : nearest? (numerator b) (denominator b) = some b := by
  rcases Nat.eq_zero_or_pos b.val with hzero | hpos
  · obtain rfl : b = ⟨0, by decide⟩ := Fin.ext hzero
    rfl
  · have hden := denominator_pos b
    refine nearest?_eq_some_of_between (numerator_pos hpos) hden ?_ ?_
    · rw [numerator_mul, Nat.add_mul]
      have := Nat.mul_lt_mul_of_pos_right (units_lt_succ b.val) hden
      omega
    · intro p hp
      have hlt : units p < units b.val := by
        rw [hp]
        exact units_lt_succ p
      rw [numerator_mul, Nat.add_mul]
      have := Nat.mul_lt_mul_of_pos_right hlt hden
      omega

/-- What is found on a grid rounds to the magnitude, and is hardly greater than its value. -/
theorem onGrid?_eq_some {b : Magnitude} {exponent : Int} {digits : Nat}
    (h : onGrid? b exponent = some digits) :
    nearestDecimal? digits exponent = some b ∧
      digits ≤ numerator b * tenTo (-exponent).toNat / (denominator b * tenTo exponent.toNat) +
        1 := by
  unfold onGrid? at h
  dsimp only at h
  generalize numerator b * tenTo (-exponent).toNat = num at h ⊢
  generalize denominator b * tenTo exponent.toNat = den at h ⊢
  have hround : roundQuotient num den ≤ num / den + 1 := by
    unfold roundQuotient
    dsimp only
    split
    · exact Nat.le_succ _
    · split
      · exact le_rfl
      · split
        · exact Nat.le_succ _
        · exact le_rfl
  have hsecond : (if roundQuotient num den = num / den then num / den + 1 else num / den) ≤
      num / den + 1 := by
    split <;> omega
  generalize (if roundQuotient num den = num / den then num / den + 1 else num / den) = second
    at h hsecond
  by_cases hfirst : nearestDecimal? (roundQuotient num den) exponent = some b
  · rw [if_pos hfirst] at h
    obtain rfl := Option.some.inj h
    exact ⟨hfirst, hround⟩
  · rw [if_neg hfirst] at h
    by_cases hother : nearestDecimal? second exponent = some b
    · rw [if_pos hother] at h
      obtain rfl := Option.some.inj h
      exact ⟨hother, hsecond⟩
    · rw [if_neg hother] at h
      cases h

/-- A magnitude of at least `10 ^ order` has seventeen digits before the point on the grid that is
sixteen places finer. -/
theorem finer_grid {b : Magnitude} {order : Int}
    (horder : denominator b * tenTo order.toNat ≤ numerator b * tenTo (-order).toNat) :
    denominator b * tenTo (order - 16).toNat * tenTo 16 ≤
      numerator b * tenTo (-(order - 16)).toNat := by
  generalize hexp : order - 16 = exponent
  refine Nat.le_of_mul_le_mul_right ?_ (tenTo_pos (-order).toNat)
  have hsum : exponent.toNat + 16 + (-order).toNat = order.toNat + (-exponent).toNat := by omega
  calc denominator b * tenTo exponent.toNat * tenTo 16 * tenTo (-order).toNat
      = denominator b * tenTo (exponent.toNat + 16 + (-order).toNat) := by
        rw [tenTo_add, tenTo_add]
        ring
    _ = denominator b * tenTo order.toNat * tenTo (-exponent).toNat := by
        rw [hsum, tenTo_add]
        ring
    _ ≤ numerator b * tenTo (-order).toNat * tenTo (-exponent).toNat :=
        Nat.mul_le_mul_right _ horder
    _ = numerator b * tenTo (-exponent).toNat * tenTo (-order).toNat :=
        Nat.mul_right_comm _ _ _

/-- On a grid with seventeen digits before the point, a step is smaller than a step of the
magnitudes. -/
theorem step_lt_gap {b : Magnitude} {P Q gap : Nat} (hP : 0 < P)
    (hfine : denominator b * Q * tenTo 16 ≤ numerator b * P) (hgappos : 0 < gap)
    (hgap : units b.val ≤ 2 ^ 53 * gap) :
    denominator b * Q * unitsInOne < gap * (denominator b * P) := by
  have hvalue := numerator_mul b
  have hpos : 0 < gap * (denominator b * P) :=
    Nat.mul_pos hgappos (Nat.mul_pos (denominator_pos b) hP)
  apply Nat.lt_of_mul_lt_mul_right (a := tenTo 16)
  calc denominator b * Q * unitsInOne * tenTo 16
      = denominator b * Q * tenTo 16 * unitsInOne := Nat.mul_right_comm _ _ _
    _ ≤ numerator b * P * unitsInOne := Nat.mul_le_mul_right _ hfine
    _ = numerator b * unitsInOne * P := Nat.mul_right_comm _ _ _
    _ = units b.val * (denominator b * P) := by rw [hvalue, Nat.mul_assoc]
    _ ≤ 2 ^ 53 * gap * (denominator b * P) := Nat.mul_le_mul_right _ hgap
    _ = gap * (denominator b * P) * 2 ^ 53 := by ring
    _ < gap * (denominator b * P) * tenTo 16 := Nat.mul_lt_mul_of_pos_left (by decide) hpos

/-- The point of such a grid that is nearest to a magnitude rounds to it: half a step of the grid is
less than half a step of the magnitudes. -/
theorem nearest?_of_grid {b : Magnitude} {P Q : Nat} (hP : 0 < P) (hQ : 0 < Q)
    (hfine : denominator b * Q * tenTo 16 ≤ numerator b * P) :
    nearest? (roundQuotient (numerator b * P) (denominator b * Q) * Q) P = some b := by
  have hvalue := numerator_mul b
  have hscale : 0 < denominator b * Q := Nat.mul_pos (denominator_pos b) hQ
  obtain ⟨hup, hlow, _⟩ := roundQuotient_spec (numerator b * P) hscale
  generalize roundQuotient (numerator b * P) (denominator b * Q) = r at hup hlow ⊢
  have hmiddle : 2 * (numerator b * P) * unitsInOne = 2 * units b.val * (denominator b * P) := by
    calc 2 * (numerator b * P) * unitsInOne = 2 * (numerator b * unitsInOne) * P := by ring
      _ = 2 * units b.val * (denominator b * P) := by
          rw [hvalue]
          ring
  have hrpos : 0 < r := by
    by_contra hzero
    obtain rfl : r = 0 := by omega
    have hten : tenTo 16 = 10 ^ 16 := rfl
    rw [hten] at hfine
    omega
  refine nearest?_eq_some_of_between (Nat.mul_pos hrpos hQ) hP ?_ ?_
  · apply Nat.lt_of_mul_lt_mul_right (a := denominator b)
    obtain ⟨unit, hsucc, hlt⟩ := units_succ b.val
    have hgap := step_lt_gap hP hfine (Nat.two_pow_pos unit) hlt.le
    have hlow' := Nat.mul_le_mul_right unitsInOne hlow
    rw [Nat.add_mul, hmiddle] at hlow'
    calc 2 * (r * Q * unitsInOne) * denominator b
        = 2 * r * (denominator b * Q) * unitsInOne := by ring
      _ ≤ 2 * units b.val * (denominator b * P) + denominator b * Q * unitsInOne := hlow'
      _ < 2 * units b.val * (denominator b * P) + 2 ^ unit * (denominator b * P) :=
          Nat.add_lt_add_left hgap _
      _ = (units b.val + units (b.val + 1)) * P * denominator b := by
          rw [hsucc]
          ring
  · intro p hp
    apply Nat.lt_of_mul_lt_mul_right (a := denominator b)
    have hle := units_le_step p
    have hlt := units_lt_succ p
    rw [← hp] at hle hlt
    have hgap := step_lt_gap hP hfine (Nat.sub_pos_of_lt hlt) hle
    have hup' := Nat.mul_le_mul_right unitsInOne hup
    rw [hmiddle] at hup'
    have hsum : (units p + units b.val) * P * denominator b +
        (units b.val - units p) * (denominator b * P) = 2 * units b.val * (denominator b * P) := by
      obtain ⟨gap, hgap⟩ := Nat.exists_eq_add_of_le hlt.le
      rw [hgap, Nat.add_sub_cancel_left]
      ring
    have hsplit : (2 * r + 1) * (denominator b * Q) * unitsInOne =
        2 * (r * Q * unitsInOne) * denominator b + denominator b * Q * unitsInOne := by ring
    omega

/-- The decimal with seventeen digits that is nearest to a magnitude rounds to it. -/
theorem onGrid?_isSome {b : Magnitude} {order : Int}
    (horder : denominator b * tenTo order.toNat ≤ numerator b * tenTo (-order).toNat) :
    (onGrid? b (order - 16)).isSome = true := by
  have hround : nearestDecimal? (roundQuotient (numerator b * tenTo (-(order - 16)).toNat)
      (denominator b * tenTo (order - 16).toNat)) (order - 16) = some b :=
    nearest?_of_grid (tenTo_pos _) (tenTo_pos _) (finer_grid horder)
  unfold onGrid?
  dsimp only
  rw [if_pos hround]
  rfl

/-! ### The search -/

/-- The decimal that the search finds has at most 17 digits and rounds to the magnitude. -/
theorem shortestFrom_spec {b : Magnitude} {order : Int}
    (hlast : (onGrid? b (order - 16)).isSome = true) {more : Nat} (hmore : more ≤ 16) :
    ∃ digits places, places ≤ 16 ∧ onGrid? b (order - (places : Nat)) = some digits ∧
      shortestFrom b order more = (digits, order - (places : Nat)) := by
  induction more with
  | zero =>
    obtain ⟨digits, hdigits⟩ := Option.isSome_iff_exists.1 hlast
    refine ⟨digits, 16, le_rfl, hdigits, ?_⟩
    rw [shortestFrom, hdigits]
    rfl
  | succ more ih =>
    rw [shortestFrom]
    have hplaces : (16 : Int) - ((more + 1 : Nat) : Int) = ((16 - (more + 1) : Nat) : Int) := by
      omega
    rw [hplaces]
    cases hfound : onGrid? b (order - ((16 - (more + 1) : Nat) : Int)) with
    | some digits => exact ⟨digits, 16 - (more + 1), by omega, hfound, rfl⟩
    | none => exact ih (by omega)

/-- Digits without trailing zeros are the digits of the number without the powers of ten. -/
theorem exists_withoutTrailingZeros {n : Nat} (hn : 0 < n) :
    ∃ m zeros, 0 < m ∧ n = m * tenTo zeros ∧
      ((decimalDigits n).reverse.dropWhile (· == '0')).reverse = decimalDigits m ∧
      (decimalDigits n).length = (decimalDigits m).length + zeros := by
  induction n using Nat.strong_induction_on with
  | _ n ih =>
    by_cases hlast : n % 10 = 0
    · have hten : 10 ≤ n := by omega
      obtain ⟨m, zeros, hm, hvalue, hdigits, hlength⟩ := ih (n / 10) (by omega) (by omega)
      have happend : decimalDigits n = decimalDigits (n / 10) ++ ['0'] := by
        unfold decimalDigits
        rw [Nat.toDigits_of_base_le (by decide) hten, hlast]
        rfl
      refine ⟨m, zeros + 1, hm, ?_, ?_, ?_⟩
      · have hone : tenTo 1 = 10 := rfl
        rw [tenTo_add, ← Nat.mul_assoc, ← hvalue, hone]
        omega
      · rw [happend, List.reverse_append, List.reverse_singleton, List.singleton_append,
          List.dropWhile_cons_of_pos (by rfl), hdigits]
      · rw [happend, List.length_append, hlength, List.length_singleton, Nat.add_assoc]
    · refine ⟨n, 0, hn, (Nat.mul_one n).symm, ?_, rfl⟩
      obtain ⟨before, hbefore⟩ :
          ∃ before, decimalDigits n = before ++ [Nat.digitChar (n % 10)] := by
        unfold decimalDigits
        rw [Nat.toDigits_eq_if (by decide)]
        split
        · exact ⟨[], by rw [Nat.mod_eq_of_lt ‹_›]; rfl⟩
        · exact ⟨_, rfl⟩
      have hne : ¬ (Nat.digitChar (n % 10) == '0') = true := by
        rw [beq_iff_eq, Nat.digitChar_eq_zero]
        exact hlast
      rw [hbefore, List.reverse_append, List.reverse_singleton, List.singleton_append,
        List.dropWhile_cons, if_neg hne, List.reverse_cons, List.reverse_reverse]

/-- A decimal may be written with its trailing zeros in the exponent. -/
theorem nearestDecimal?_mul_tenTo (digits zeros : Nat) (exponent : Int) :
    nearestDecimal? (digits * tenTo zeros) exponent =
      nearestDecimal? digits (exponent + (zeros : Nat)) := by
  refine nearest?_congr (tenTo_pos _) (tenTo_pos _) ?_
  have hsum : zeros + exponent.toNat + (-(exponent + (zeros : Nat))).toNat =
      (exponent + (zeros : Nat)).toNat + (-exponent).toNat := by omega
  rw [Nat.mul_assoc, Nat.mul_assoc, Nat.mul_assoc, ← tenTo_add, ← tenTo_add, ← tenTo_add,
    ← Nat.add_assoc, hsum]

/-- The shortest decimal of a positive magnitude, as a whole number and a power of ten. -/
theorem shortest_spec {b : Magnitude} (hb : 0 < b.val) :
    ∃ digits exponent, 0 < digits ∧ digits ≤ tenTo 17 ∧
      nearestDecimal? digits exponent = some b ∧
      shortest b = (decimalDigits digits, exponent + (decimalDigits digits).length - 1) := by
  obtain ⟨horder, horder'⟩ := decimalOrder_spec (numerator_pos hb) (denominator_pos b)
  unfold shortest
  generalize decimalOrder (numerator b) (denominator b) = order at horder horder' ⊢
  obtain ⟨found, places, hplaces, hfound, hsearch⟩ :=
    shortestFrom_spec (onGrid?_isSome horder) (le_refl 16)
  rw [hsearch]
  obtain ⟨hround, hsize⟩ := onGrid?_eq_some hfound
  generalize hexp : order - (places : Nat) = exponent at hround hsize ⊢
  have hpos : 0 < found := by
    by_contra hzero
    obtain rfl : found = 0 := by omega
    rw [nearestDecimal?, Nat.zero_mul, nearest?_zero] at hround
    have := Option.some.inj hround
    rw [← this] at hb
    exact absurd hb (by decide)
  have hmax : found ≤ tenTo 17 := by
    have hlt : numerator b * tenTo (-exponent).toNat <
        tenTo (places + 1) * (denominator b * tenTo exponent.toNat) := by
      apply Nat.lt_of_mul_lt_mul_right (a := tenTo (-order).toNat)
      have hsum : order.toNat + (-exponent).toNat = places + exponent.toNat + (-order).toNat := by
        omega
      calc numerator b * tenTo (-exponent).toNat * tenTo (-order).toNat
          = numerator b * tenTo (-order).toNat * tenTo (-exponent).toNat :=
            Nat.mul_right_comm _ _ _
        _ < 10 * (denominator b * tenTo order.toNat) * tenTo (-exponent).toNat :=
            Nat.mul_lt_mul_of_pos_right horder' (tenTo_pos _)
        _ = 10 * denominator b * tenTo (order.toNat + (-exponent).toNat) := by
            rw [tenTo_add]
            ring
        _ = tenTo (places + 1) * (denominator b * tenTo exponent.toNat) *
              tenTo (-order).toNat := by
            rw [hsum, tenTo_add, tenTo_add, tenTo_add places 1]
            have hone : tenTo 1 = 10 := rfl
            rw [hone]
            ring
    have hquot := (Nat.div_lt_iff_lt_mul
      (Nat.mul_pos (denominator_pos b) (tenTo_pos exponent.toNat))).2 hlt
    have hmono : tenTo (places + 1) ≤ tenTo 17 := tenTo_mono (by omega)
    omega
  obtain ⟨digits, zeros, hdigits, hvalue, hstrip, hlength⟩ := exists_withoutTrailingZeros hpos
  refine ⟨digits, exponent + (zeros : Nat), hdigits, ?_, ?_, ?_⟩
  · refine le_trans ?_ hmax
    rw [hvalue]
    exact Nat.le_mul_of_pos_right _ (tenTo_pos zeros)
  · rw [← nearestDecimal?_mul_tenTo, ← hvalue]
    exact hround
  · dsimp only
    rw [hstrip, hlength]
    congr 1
    omega

end Double

end SilentAuth
