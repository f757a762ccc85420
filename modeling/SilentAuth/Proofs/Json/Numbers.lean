import SilentAuth.Proofs.Double.Finite
import SilentAuth.Proofs.Json.Spelling

/-!
# The text of a number is read as a number

Whole numbers are read as they are written. A double is read as a double of the same sign, which
need not be the same double; `Number.reread` is the number that is read.

* `Number.scanned`: the text of a number is a number to the scanner.
* `Number.reread_natural`, `Number.reread_negative`: whole numbers are read as they are written.
-/

namespace SilentAuth

open ParseTree NumberScan

namespace Double

/-! ### Digits of numbers -/

/-- The digits of a number are digits. -/
theorem isDigit_of_mem_decimalDigits {n : Nat} {c : Char} (h : c ∈ decimalDigits n) :
    c.isDigit = true :=
  Nat.isDigit_of_mem_toDigits (by decide) le_rfl h

/-- Every number has a digit. -/
theorem decimalDigits_ne_nil (n : Nat) : decimalDigits n ≠ [] := Nat.toDigits_ne_nil

/-- The digits of a positive number start with another digit than zero. -/
theorem head?_decimalDigits {n : Nat} (hn : 0 < n) : (decimalDigits n).head? ≠ some '0' := by
  induction n using Nat.strong_induction_on with
  | _ n ih =>
    unfold decimalDigits
    rw [Nat.toDigits_eq_if (by decide)]
    split
    · intro h
      have := Nat.digitChar_eq_zero.1 (Option.some.inj h)
      omega
    · have hfirst := ih (n / 10) (by omega) (by omega)
      unfold decimalDigits at hfirst
      rw [List.head?_append_of_ne_nil _ Nat.toDigits_ne_nil]
      exact hfirst

/-- A number is a zero or starts with another digit. -/
theorem decimalDigits_head (n : Nat) :
    decimalDigits n = ['0'] ∨ (decimalDigits n).head? ≠ some '0' := by
  rcases Nat.eq_zero_or_pos n with rfl | hn
  · exact .inl rfl
  · exact .inr (head?_decimalDigits hn)

/-- Digits say less than the power of ten with their number of places. -/
theorem ofDigitChars_lt {digits : List Char} (h : ∀ c ∈ digits, c.isDigit = true) :
    Nat.ofDigitChars 10 digits 0 < tenTo digits.length := by
  induction digits with
  | nil => exact tenTo_pos 0
  | cons c rest ih =>
    have hc := Char.isDigit_iff_toNat.1 (h c List.mem_cons_self)
    have hrest := ih fun c hc => h c (List.mem_cons_of_mem _ hc)
    have hdigit : c.toNat - '0'.toNat ≤ 9 := by
      have h9 : '9'.toNat = 57 := rfl
      have h0 : '0'.toNat = 48 := rfl
      omega
    have hten : tenTo 1 = 10 := rfl
    rw [Nat.ofDigitChars_cons, Nat.ofDigitChars_eq_ofDigitChars_zero, List.length_cons, tenTo_add,
      hten]
    have hpow : 10 ^ rest.length = tenTo rest.length := rfl
    rw [hpow]
    have hle : tenTo rest.length * (10 * 0 + (c.toNat - '0'.toNat)) ≤ tenTo rest.length * 9 :=
      Nat.mul_le_mul_left _ (by omega)
    omega

/-- Leading zeros do not count. -/
theorem ofDigitChars_zeros (count : Nat) (digits : List Char) :
    Nat.ofDigitChars 10 (List.replicate count '0' ++ digits) 0 = Nat.ofDigitChars 10 digits 0 := by
  rw [Nat.ofDigitChars_append, Nat.ofDigitChars_replicate_zero, Nat.mul_zero]

/-! ### The layout of digits -/

/-- The parts of a decimal as it is laid out. -/
def spelling (negative : Bool) (digits : List Char) (order : Int) : Spelling :=
  if -5 ≤ order ∧ order ≤ 15 then
    if 0 ≤ order then
      let whole := order.toNat + 1
      let padded := digits ++ List.replicate (whole - digits.length) '0'
      let fraction := padded.drop whole
      ⟨negative, padded.take whole, if fraction.isEmpty then ['0'] else fraction, none⟩
    else
      ⟨negative, ['0'], List.replicate ((-order).toNat - 1) '0' ++ digits, none⟩
  else
    ⟨negative, digits.take 1, digits.drop 1,
      some (!decide (0 ≤ order), decimalDigits order.natAbs)⟩

/-- The characters of a spelling are the sign and the layout of the digits. -/
theorem chars_spelling (negative : Bool) {digits : List Char} (hne : digits ≠ []) (order : Int) :
    (spelling negative digits order).chars =
      if negative then '-' :: layout digits order else layout digits order := by
  have hunsigned : (spelling negative digits order).unsigned = layout digits order := by
    unfold spelling layout
    split
    · split
      · dsimp only
        split
        · simp [Spelling.unsigned, Spelling.fractionChars, Spelling.exponentChars]
        · rename_i hfraction
          have : ¬ (digits ++ List.replicate (order.toNat + 1 - digits.length) '0').drop
              (order.toNat + 1) = [] := by simpa using hfraction
          simp only [Spelling.unsigned, Spelling.fractionChars, Spelling.exponentChars, if_neg this,
            List.append_nil]
      · simp [Spelling.unsigned, Spelling.fractionChars, Spelling.exponentChars, hne]
    · dsimp only
      by_cases hsign : 0 ≤ order
      · simp [Spelling.unsigned, Spelling.fractionChars, Spelling.exponentChars, hsign]
      · simp [Spelling.unsigned, Spelling.fractionChars, Spelling.exponentChars, hsign]
  have hnegative : (spelling negative digits order).negative = negative := by
    unfold spelling
    split
    · split <;> rfl
    · rfl
  unfold Spelling.chars
  rw [hunsigned, hnegative]

/-- The layout of the digits of a positive number is a number of JSON. -/
theorem wellFormed_spelling (negative : Bool) {n : Nat} (hn : 0 < n) (order : Int) :
    (spelling negative (decimalDigits n) order).WellFormed := by
  have hdigits : ∀ c ∈ decimalDigits n, c.isDigit = true :=
    fun _ h => isDigit_of_mem_decimalDigits h
  have hhead := head?_decimalDigits hn
  have hne := decimalDigits_ne_nil n
  generalize decimalDigits n = digits at hdigits hhead hne ⊢
  obtain ⟨first, rest, rfl⟩ := List.exists_cons_of_ne_nil hne
  have hzeros : ∀ count, ∀ c ∈ List.replicate count '0', c.isDigit = true := by
    intro count c hc
    rw [(List.mem_replicate.1 hc).2]
    rfl
  unfold spelling
  split
  · split
    · dsimp only
      have hpadded : ∀ c ∈ first :: rest ++
          List.replicate (order.toNat + 1 - (first :: rest).length) '0', c.isDigit = true := by
        intro c hc
        rcases List.mem_append.1 hc with hc | hc
        · exact hdigits c hc
        · exact hzeros _ c hc
      refine ⟨by simp, fun c hc => hpadded c (List.mem_of_mem_take hc), .inr (by simpa using hhead),
        ?_, by simp⟩
      intro c hc
      split at hc
      · rw [List.mem_singleton.1 hc]
        rfl
      · exact hpadded c (List.mem_of_mem_drop hc)
    · refine ⟨by simp, by simp, .inl rfl, ?_, by simp⟩
      intro c hc
      rcases List.mem_append.1 hc with hc | hc
      · exact hzeros _ c hc
      · exact hdigits c hc
  · refine ⟨by simp, fun c hc => hdigits c (List.mem_of_mem_take hc), .inr (by simpa using hhead),
      fun c hc => hdigits c (List.mem_of_mem_drop hc), ?_⟩
    rintro e he
    obtain rfl := Option.some.inj he
    exact ⟨decimalDigits_ne_nil _, fun c hc => isDigit_of_mem_decimalDigits hc⟩

/-- A spelling that is not a whole number is read as a double, if its digits have 64 bits and their
decimal is read. -/
theorem exists_value?_scan {s : Spelling} (hdouble : s.fraction ≠ [] ∨ s.exponent.isSome = true)
    (hsize : Nat.ofDigitChars 10 (s.whole ++ s.fraction) 0 < 0x10000000000000000)
    (hsome : (ofDecimal? (Nat.ofDigitChars 10 (s.whole ++ s.fraction) 0) s.places).isSome = true) :
    ∃ m, s.scan.value? = some (.double ⟨s.negative, m⟩) := by
  obtain ⟨m, hm⟩ := Option.isSome_iff_exists.1 hsome
  refine ⟨m, ?_⟩
  rw [Spelling.value?_scan_double hdouble hsize, hm]
  rfl

/-- A spelling with places after the point and no exponent is read, if its digits have 64 bits. -/
theorem exists_value?_scan_of_fraction {s : Spelling} (hfraction : s.fraction ≠ [])
    (hexponent : s.exponent = none)
    (hsize : Nat.ofDigitChars 10 (s.whole ++ s.fraction) 0 < 0x10000000000000000) :
    ∃ m, s.scan.value? = some (.double ⟨s.negative, m⟩) := by
  apply exists_value?_scan (.inl hfraction) hsize
  apply ofDecimal?_isSome_of_neg hsize
  have hpos := List.length_pos_iff.2 hfraction
  simp only [Spelling.places, hexponent, Option.elim_none]
  omega

/-- Eighteen digits have 64 bits. -/
theorem ofDigitChars_lt_of_length {s : Spelling} (hs : s.WellFormed)
    (hcount : (s.whole ++ s.fraction).length ≤ 18) :
    Nat.ofDigitChars 10 (s.whole ++ s.fraction) 0 < 0x10000000000000000 := by
  have h18 : tenTo 18 = 1000000000000000000 := rfl
  have hdigits : ∀ c ∈ s.whole ++ s.fraction, c.isDigit = true := by
    intro c hc
    rcases List.mem_append.1 hc with hc | hc
    · exact hs.whole_digits c hc
    · exact hs.fraction_digits c hc
  have hlt := ofDigitChars_lt hdigits
  have hmono := tenTo_mono hcount
  omega

/-- The places of a spelling with one digit before the point and an exponent. -/
theorem places_exponent (negative : Bool) (n : Nat) (order : Int) :
    Spelling.places ⟨negative, (decimalDigits n).take 1, (decimalDigits n).drop 1,
      some (!decide (0 ≤ order), decimalDigits order.natAbs)⟩ =
        order - (((decimalDigits n).length : Int) - 1) := by
  have hpos := List.length_pos_iff.2 (decimalDigits_ne_nil n)
  have horder : Nat.ofDigitChars 10 (decimalDigits order.natAbs) 0 = order.natAbs :=
    Nat.ofDigitChars_ten_toDigits
  simp only [Spelling.places, Option.elim, horder, List.length_drop]
  by_cases hsign : 0 ≤ order
  · rw [decide_eq_true hsign, Bool.not_true, if_neg Bool.false_ne_true]
    omega
  · rw [decide_eq_false hsign, Bool.not_false, if_pos rfl]
    omega

/-- The layout of digits is read, if their decimal is. -/
theorem value?_spelling (negative : Bool) {n : Nat} (hn : 0 < n) (hmax : n ≤ tenTo 17) {order : Int}
    (hread : (ofDecimal? n (order - (((decimalDigits n).length : Int) - 1))).isSome = true) :
    ∃ m, (spelling negative (decimalDigits n) order).scan.value? =
      some (.double ⟨negative, m⟩) := by
  have h17 : tenTo 17 = 100000000000000000 := rfl
  have hvalue : Nat.ofDigitChars 10 (decimalDigits n) 0 = n := Nat.ofDigitChars_ten_toDigits
  have hwell := wellFormed_spelling negative hn order
  have hlength : (decimalDigits n).length ≤ 18 := by
    obtain ⟨k, hk, hlow, _⟩ := decimalDigits_length hn
    by_contra hgt
    have := tenTo_mono (a := 18) (b := k) (by omega)
    have h18 : tenTo 18 = 1000000000000000000 := rfl
    omega
  unfold spelling at hwell ⊢
  split
  · rename_i hrange
    rw [if_pos hrange] at hwell
    split
    · -- all digits before the point, and perhaps zeros, or the point among the digits
      rename_i hnonneg
      rw [if_pos hnonneg] at hwell
      dsimp only at hwell ⊢
      generalize hpadded : decimalDigits n ++
        List.replicate (order.toNat + 1 - (decimalDigits n).length) '0' = padded at hwell ⊢
      have hpaddedLength : padded.length = max (decimalDigits n).length (order.toNat + 1) := by
        rw [← hpadded, List.length_append, List.length_replicate]
        omega
      generalize hfraction : (if (padded.drop (order.toNat + 1)).isEmpty then ['0'] else
        padded.drop (order.toNat + 1)) = fraction at hwell ⊢
      have hfractionne : fraction ≠ [] := by
        rw [← hfraction]
        split
        · exact List.cons_ne_nil _ _
        · rename_i h
          simpa using h
      have hcount : (padded.take (order.toNat + 1) ++ fraction).length ≤ 18 := by
        rw [List.length_append, List.length_take, ← hfraction]
        split
        · rw [List.length_singleton]
          omega
        · rw [List.length_drop]
          omega
      exact exists_value?_scan_of_fraction hfractionne rfl (ofDigitChars_lt_of_length hwell hcount)
    · -- zeros before the digits
      have hleading : Nat.ofDigitChars 10 (['0'] ++ (List.replicate ((-order).toNat - 1) '0' ++
          decimalDigits n)) 0 = n := by
        rw [← List.append_assoc, ← List.replicate_one, List.replicate_append_replicate,
          ofDigitChars_zeros, hvalue]
      have hne : List.replicate ((-order).toNat - 1) '0' ++ decimalDigits n ≠ [] := by
        simp [decimalDigits_ne_nil]
      apply exists_value?_scan_of_fraction hne rfl
      rw [hleading]
      omega
  · have hall : Nat.ofDigitChars 10 ((decimalDigits n).take 1 ++ (decimalDigits n).drop 1) 0 =
        n := by
      rw [List.take_append_drop, hvalue]
    apply exists_value?_scan (.inr rfl)
    · rw [hall]
      omega
    · rw [hall, places_exponent]
      exact hread

/-! ### Doubles -/

/-- The text of a double is a number that is read as a double of the same sign. -/
theorem exists_spelling (d : Double) : ∃ s : Spelling, s.WellFormed ∧ d.text = s.chars ∧
    ∃ m, s.scan.value? = some (.double ⟨d.negative, m⟩) := by
  obtain ⟨negative, magnitude⟩ := d
  unfold text
  dsimp only
  by_cases hzero : magnitude.val = 0
  · refine ⟨⟨negative, ['0'], ['0'], none⟩, ?_, ?_, ?_⟩
    · refine ⟨by simp, by simp, .inl rfl, by simp, by simp⟩
    · rw [if_pos hzero]
      cases negative <;> rfl
    · have hread : (ofDecimal? 0 (-1)).isSome = true :=
        ofDecimal?_isSome_of_neg (by decide) (by decide)
      obtain ⟨m, hm⟩ := Option.isSome_iff_exists.1 hread
      refine ⟨m, ?_⟩
      have hsize : Nat.ofDigitChars 10 ['0', '0'] 0 < 0x10000000000000000 := by decide
      rw [Spelling.value?_scan_double (s := ⟨negative, ['0'], ['0'], none⟩)
        (.inl (List.cons_ne_nil _ _)) hsize]
      show (ofDecimal? 0 (-1)).map _ = _
      rw [hm]
      rfl
  · obtain ⟨digits, exponent, hpos, hmax, hround, hshort⟩ :=
      shortest_spec (Nat.pos_of_ne_zero hzero)
    have hread := ofDecimal?_shortest_isSome hpos hmax hround hshort
    rw [if_neg hzero, hshort]
    refine ⟨spelling negative (decimalDigits digits) _, wellFormed_spelling negative hpos _,
      (chars_spelling negative (decimalDigits_ne_nil digits) _).symm,
      value?_spelling negative hpos hmax ?_⟩
    have hexponent : exponent + ((decimalDigits digits).length : Int) - 1 -
        (((decimalDigits digits).length : Int) - 1) = exponent := by omega
    rw [hexponent]
    exact hread

end Double

/-! ### Numbers -/

namespace Number

/-- The number that the text of a number is read as. -/
def reread (n : Number) : Number := ((ofChars? n.write).bind NumberScan.value?).getD n

/-- A number that is written in a well-formed spelling is read as the value of the spelling. -/
theorem reread_eq {n m : Number} {s : Spelling} (hs : s.WellFormed) (hwrite : n.write = s.chars)
    (hvalue : s.scan.value? = some m) : n.reread = m := by
  rw [reread, hwrite, Spelling.scanned hs, Option.bind_some, hvalue]
  rfl

/-- The text of a number without a fraction. -/
theorem exists_spelling_whole (negative : Bool) (n : Nat) :
    ∃ s : Spelling, s.WellFormed ∧ s.negative = negative ∧ s.fraction = [] ∧ s.exponent = none ∧
      s.chars = (if negative then '-' :: Double.decimalDigits n else Double.decimalDigits n) ∧
      Nat.ofDigitChars 10 s.whole 0 = n := by
  have hdigits : ∀ c ∈ Double.decimalDigits n, c.isDigit = true :=
    fun _ h => Double.isDigit_of_mem_decimalDigits h
  refine ⟨⟨negative, Double.decimalDigits n, [], none⟩, ?_, rfl, rfl, rfl, ?_,
    Nat.ofDigitChars_ten_toDigits⟩
  · exact ⟨Double.decimalDigits_ne_nil n, hdigits, Double.decimalDigits_head n, by simp, by simp⟩
  · simp [Spelling.chars, Spelling.unsigned, Spelling.fractionChars, Spelling.exponentChars]

/-- The text of a number is read, and whole numbers are read as they are. -/
theorem exists_spelling (n : Number) : ∃ s : Spelling, s.WellFormed ∧ n.write = s.chars ∧
    ∃ m, s.scan.value? = some m ∧
      match n with
      | .natural _ | .negative _ => m = n
      | .double d => ∃ b, m = .double ⟨d.negative, b⟩ := by
  cases n with
  | natural n =>
    obtain ⟨s, hs, hnegative, hfraction, hexponent, hchars, hvalue⟩ :=
      exists_spelling_whole false n.toNat
    refine ⟨s, hs, hchars.symm, .natural n, ?_, rfl⟩
    rw [Spelling.value?_scan_whole hfraction hexponent hvalue n.toNat_lt, hnegative]
    simp
  | negative n =>
    have hn := n.isLt
    obtain ⟨s, hs, hnegative, hfraction, hexponent, hchars, hvalue⟩ :=
      exists_spelling_whole true (n.val + 1)
    refine ⟨s, hs, hchars.symm, .negative n, ?_, rfl⟩
    rw [Spelling.value?_scan_whole hfraction hexponent hvalue (by omega), hnegative,
      if_neg (by decide), dif_pos (by omega)]
    rfl
  | double d =>
    obtain ⟨s, hs, hchars, b, hb⟩ := Double.exists_spelling d
    exact ⟨s, hs, hchars, _, hb, b, rfl⟩

/-- A whole number from zero on is read as it is written. -/
@[simp] theorem reread_natural (n : UInt64) : (natural n).reread = natural n := by
  obtain ⟨s, hs, hwrite, m, hm, hsame⟩ := exists_spelling (natural n)
  rw [reread_eq hs hwrite hm]
  exact hsame

/-- A whole number below zero is read as it is written. -/
@[simp] theorem reread_negative (n : Fin 0x8000000000000000) :
    (negative n).reread = negative n := by
  obtain ⟨s, hs, hwrite, m, hm, hsame⟩ := exists_spelling (negative n)
  rw [reread_eq hs hwrite hm]
  exact hsame

/-- The text of a number is a number to the scanner. -/
theorem scanned (n : Number) : ∃ scan, ofChars? n.write = some scan ∧ scan.complete = true ∧
    scan.value? = some n.reread := by
  obtain ⟨s, hs, hwrite, m, hm, _⟩ := exists_spelling n
  refine ⟨s.scan, ?_, s.complete_scan, ?_⟩
  · rw [hwrite, Spelling.scanned hs]
  · rw [hm, reread_eq hs hwrite hm]

end Number

end SilentAuth
