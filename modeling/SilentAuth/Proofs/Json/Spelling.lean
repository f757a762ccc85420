import SilentAuth.Json.Reader

/-!
# Spellings of numbers

A JSON number is spelled as a sign, the digits of the whole part, those of the fraction, and an
exponent with a sign. The scanner of numbers takes a well-formed spelling and holds its parts
afterwards.

* `Spelling.scanned`: what the scanner holds after a spelling.
* `Spelling.value?_scan_whole`, `Spelling.value?_scan_double`: the number that a spelling says.
-/

namespace SilentAuth

namespace ParseTree

namespace NumberScan

/-- Takes a character that belongs to the number. -/
def take? (n : NumberScan) (c : Char) : Option NumberScan :=
  match n.step c with
  | .more n => some n
  | .ended => none
  | .refused => none

/-- Takes all characters of a number. -/
def ofChars? : List Char → Option NumberScan
  | [] => none
  | c :: rest => do rest.foldlM take? (← start? c)

end NumberScan

/-! ### Digits -/

/-- The value of a digit. -/
def digitOf (c : Char) : Nat := c.toNat - '0'.toNat

/-- A digit has a value. -/
theorem digitValue?_eq_some {c : Char} (h : c.isDigit = true) :
    digitValue? c = some (digitOf c) := by
  unfold digitValue?
  rw [if_pos]
  · rfl
  · simpa [Char.isDigit, Char.le_def] using h

/-- Other characters have none. -/
theorem digitValue?_eq_none {c : Char} (h : c.isDigit = false) : digitValue? c = none := by
  unfold digitValue?
  rw [if_neg]
  simpa [Char.isDigit, Char.le_def] using h

/-- The only digit of value zero is 0. -/
theorem digitOf_eq_zero {c : Char} (hc : c.isDigit = true) : digitOf c = 0 ↔ c = '0' := by
  obtain ⟨hlow, _⟩ := Char.isDigit_iff_toNat.1 hc
  unfold digitOf
  constructor
  · intro h
    apply Char.ext
    apply UInt32.toNat_inj.1
    exact Nat.le_antisymm (Nat.sub_eq_zero_iff_le.1 h) hlow
  · rintro rfl
    rfl

end ParseTree

/-- The parts of a number as it is spelled. -/
structure Spelling where
  negative : Bool
  /-- The digits before the point. -/
  whole : List Char
  /-- The digits after the point, of which there are none where there is no point. -/
  fraction : List Char
  /-- Whether the exponent is negative, and its digits. -/
  exponent : Option (Bool × List Char)

namespace Spelling

open ParseTree

/-- The characters of an exponent. -/
def exponentChars : Option (Bool × List Char) → List Char
  | none => []
  | some (negative, digits) => 'e' :: (if negative then '-' else '+') :: digits

/-- The characters of a fraction. -/
def fractionChars (fraction : List Char) : List Char :=
  if fraction = [] then [] else '.' :: fraction

/-- The characters of a number without its sign. -/
def unsigned (s : Spelling) : List Char :=
  s.whole ++ fractionChars s.fraction ++ exponentChars s.exponent

/-- The characters of a number. -/
def chars (s : Spelling) : List Char := if s.negative then '-' :: s.unsigned else s.unsigned

/-- What JSON requires: there are digits before the point, and they start with a zero only if that
is the only one. -/
structure WellFormed (s : Spelling) : Prop where
  whole_ne : s.whole ≠ []
  whole_digits : ∀ c ∈ s.whole, c.isDigit = true
  whole_head : s.whole = ['0'] ∨ s.whole.head? ≠ some '0'
  fraction_digits : ∀ c ∈ s.fraction, c.isDigit = true
  exponent_digits : ∀ e, s.exponent = some e → e.2 ≠ [] ∧ ∀ c ∈ e.2, c.isDigit = true

/-- How far a number is read after its whole part. -/
def wholeStage (whole : List Char) : NumberStage := if whole = ['0'] then .zero else .whole

/-- How far a number is read after its fraction. -/
def fractionStage (s : Spelling) : NumberStage :=
  if s.fraction = [] then wholeStage s.whole else .fraction

/-- What the scanner holds after a spelling. -/
def scan (s : Spelling) : NumberScan where
  stage := if s.exponent.isSome then .exponent else s.fractionStage
  negative := s.negative
  whole := (s.whole.map digitOf).reverse
  fraction := (s.fraction.map digitOf).reverse
  exponentNegative := s.exponent.elim false fun e => e.1
  exponent := s.exponent.elim 0 fun e => Nat.ofDigitChars 10 e.2 0

/-- A spelling is complete. -/
theorem complete_scan (s : Spelling) : s.scan.complete = true := by
  unfold scan fractionStage wholeStage NumberScan.complete
  by_cases hexponent : s.exponent.isSome = true
  · simp [hexponent]
  · by_cases hfraction : s.fraction = []
    · by_cases hwhole : s.whole = ['0']
      · simp [hexponent, hfraction, hwhole]
      · simp [hexponent, hfraction, hwhole]
    · simp [hexponent, hfraction]

end Spelling

namespace ParseTree

namespace NumberScan

/-! ### One part after another -/

/-- The scanner takes a digit where its stage allows one. -/
theorem take?_digit {n n' : NumberScan} {c : Char} (hc : c.isDigit = true)
    (h : n.digit? (digitOf c) = some n') : n.take? c = some n' := by
  unfold take? step
  rw [digitValue?_eq_some hc]
  dsimp only
  rw [h]

/-- The rest of the whole part. -/
theorem foldlM_whole {digits : List Char} (hdigits : ∀ c ∈ digits, c.isDigit = true)
    (negative : Bool) (whole : List Nat) :
    digits.foldlM take? ⟨.whole, negative, whole, [], false, 0⟩ =
      some ⟨.whole, negative, (digits.map digitOf).reverse ++ whole, [], false, 0⟩ := by
  induction digits generalizing whole with
  | nil => rfl
  | cons c rest ih =>
    have hc : c.isDigit = true := hdigits c List.mem_cons_self
    have hrest := ih (fun c h => hdigits c (List.mem_cons_of_mem _ h)) (digitOf c :: whole)
    rw [List.foldlM_cons, take?_digit hc rfl]
    rw [List.map_cons, List.reverse_cons, List.append_assoc]
    exact hrest

/-- The rest of the fraction. -/
theorem foldlM_fraction {digits : List Char} (hdigits : ∀ c ∈ digits, c.isDigit = true)
    (negative : Bool) (whole fraction : List Nat) :
    digits.foldlM take? ⟨.fraction, negative, whole, fraction, false, 0⟩ =
      some ⟨.fraction, negative, whole, (digits.map digitOf).reverse ++ fraction, false, 0⟩ := by
  induction digits generalizing fraction with
  | nil => rfl
  | cons c rest ih =>
    have hc : c.isDigit = true := hdigits c List.mem_cons_self
    have hrest := ih (fun c h => hdigits c (List.mem_cons_of_mem _ h)) (digitOf c :: fraction)
    rw [List.foldlM_cons, take?_digit hc rfl]
    rw [List.map_cons, List.reverse_cons, List.append_assoc]
    exact hrest

/-- The rest of the exponent. -/
theorem foldlM_exponent {digits : List Char} (hdigits : ∀ c ∈ digits, c.isDigit = true)
    (negative : Bool) (whole fraction : List Nat) (exponentNegative : Bool) (exponent : Nat) :
    digits.foldlM take? ⟨.exponent, negative, whole, fraction, exponentNegative, exponent⟩ =
      some ⟨.exponent, negative, whole, fraction, exponentNegative,
        Nat.ofDigitChars 10 digits exponent⟩ := by
  induction digits generalizing exponent with
  | nil => rw [Nat.ofDigitChars_nil]; rfl
  | cons c rest ih =>
    have hc : c.isDigit = true := hdigits c List.mem_cons_self
    rw [List.foldlM_cons, take?_digit hc rfl, Nat.ofDigitChars_cons, Nat.mul_comm 10 exponent]
    exact ih (fun c h => hdigits c (List.mem_cons_of_mem _ h)) _

end NumberScan

end ParseTree

namespace Spelling

open ParseTree NumberScan

/-- What the scanner holds after the sign and the whole part. -/
theorem ofChars?_whole {s : Spelling} (hs : s.WellFormed) (rest : List Char) :
    ofChars? ((if s.negative then ['-'] else []) ++ s.whole ++ rest) =
      rest.foldlM take?
        ⟨wholeStage s.whole, s.negative, (s.whole.map digitOf).reverse, [], false, 0⟩ := by
  obtain ⟨hne, hdigits, hhead, _, _⟩ := hs
  generalize s.whole = whole at hne hdigits hhead ⊢
  cases whole with
  | nil => exact absurd rfl hne
  | cons c digits =>
    have hc : c.isDigit = true := hdigits c List.mem_cons_self
    have hdigits' : ∀ c ∈ digits, c.isDigit = true :=
      fun c h => hdigits c (List.mem_cons_of_mem _ h)
    -- the first digit decides whether more may follow
    have hfirst : ∀ negative, digits.foldlM take?
        ⟨if digitOf c = 0 then .zero else .whole, negative, [digitOf c], [], false, 0⟩ =
          some ⟨wholeStage (c :: digits), negative, ((c :: digits).map digitOf).reverse, [],
            false, 0⟩ := by
      intro negative
      by_cases hzero : c = '0'
      · subst hzero
        obtain rfl : digits = [] := by simpa using hhead
        rfl
      · have hvalue : ¬ digitOf c = 0 := mt (digitOf_eq_zero hc).1 hzero
        have hstage : wholeStage (c :: digits) = .whole := by
          unfold wholeStage
          rw [if_neg]
          intro heq
          exact hzero (List.cons.inj heq).1
        rw [if_neg hvalue, hstage, foldlM_whole hdigits', List.map_cons, List.reverse_cons]
    cases s.negative with
    | false =>
      have hminus : c ≠ '-' := by
        rintro rfl
        exact absurd hc (by decide)
      have hstart : start? c =
          some ⟨if digitOf c = 0 then .zero else .whole, false, [digitOf c], [], false, 0⟩ := by
        unfold start?
        rw [if_neg hminus, digitValue?_eq_some hc]
        cases digitOf c with
        | zero => rfl
        | succ d => rfl
      simp only [Bool.false_eq_true, if_false, List.nil_append, List.cons_append, ofChars?]
      rw [hstart, Option.bind_eq_bind, Option.bind_some, List.foldlM_append, hfirst]
      rfl
    | true =>
      have hdigit : take? ⟨.sign, true, [], [], false, 0⟩ c =
          some ⟨if digitOf c = 0 then .zero else .whole, true, [digitOf c], [], false, 0⟩ :=
        take?_digit hc rfl
      simp only [if_true, List.cons_append, List.nil_append, ofChars?]
      have hstart : start? '-' = some ⟨.sign, true, [], [], false, 0⟩ := rfl
      rw [hstart, Option.bind_eq_bind, Option.bind_some, List.foldlM_cons, hdigit,
        Option.bind_eq_bind, Option.bind_some, List.foldlM_append, hfirst]
      rfl

/-- The fraction, if there is one. -/
theorem foldlM_fractionChars {fraction : List Char} (h : ∀ c ∈ fraction, c.isDigit = true)
    (text : List Char) (negative : Bool) (whole : List Nat) :
    (fractionChars fraction).foldlM take? ⟨wholeStage text, negative, whole, [], false, 0⟩ =
      some ⟨if fraction = [] then wholeStage text else .fraction, negative, whole,
        (fraction.map digitOf).reverse, false, 0⟩ := by
  unfold fractionChars
  cases fraction with
  | nil => rfl
  | cons c digits =>
    have hpoint : take? ⟨wholeStage text, negative, whole, [], false, 0⟩ '.' =
        some ⟨.point, negative, whole, [], false, 0⟩ := by
      unfold wholeStage
      split <;> rfl
    have hfirst : take? ⟨.point, negative, whole, [], false, 0⟩ c =
        some ⟨.fraction, negative, whole, [digitOf c], false, 0⟩ :=
      take?_digit (h c List.mem_cons_self) rfl
    have hrest := foldlM_fraction (fun c hc => h c (List.mem_cons_of_mem _ hc)) negative whole
      [digitOf c]
    rw [if_neg (List.cons_ne_nil c digits), if_neg (List.cons_ne_nil c digits), List.foldlM_cons,
      hpoint, Option.bind_eq_bind, Option.bind_some, List.foldlM_cons, hfirst,
      Option.bind_eq_bind, Option.bind_some, hrest, List.map_cons, List.reverse_cons]

/-- The exponent, if there is one. -/
theorem foldlM_exponentChars {exponent : Option (Bool × List Char)}
    (h : ∀ e, exponent = some e → e.2 ≠ [] ∧ ∀ c ∈ e.2, c.isDigit = true) {stage : NumberStage}
    (hstage : stage = .zero ∨ stage = .whole ∨ stage = .fraction) (negative : Bool)
    (whole fraction : List Nat) :
    (exponentChars exponent).foldlM take? ⟨stage, negative, whole, fraction, false, 0⟩ =
      some ⟨if exponent.isSome then .exponent else stage, negative, whole, fraction,
        exponent.elim false fun e => e.1, exponent.elim 0 fun e => Nat.ofDigitChars 10 e.2 0⟩ := by
  cases exponent with
  | none => rfl
  | some e =>
    obtain ⟨exponentNegative, digits⟩ := e
    obtain ⟨hne, hdigits⟩ := h _ rfl
    have hmark : take? ⟨stage, negative, whole, fraction, false, 0⟩ 'e' =
        some ⟨.mark, negative, whole, fraction, false, 0⟩ := by
      rcases hstage with rfl | rfl | rfl <;> rfl
    have hsign : take? ⟨.mark, negative, whole, fraction, false, 0⟩
        (if exponentNegative then '-' else '+') =
          some ⟨.markSign, negative, whole, fraction, exponentNegative, 0⟩ := by
      cases exponentNegative <;> rfl
    cases digits with
    | nil => exact absurd rfl hne
    | cons c digits =>
      have hfirst : take? ⟨.markSign, negative, whole, fraction, exponentNegative, 0⟩ c =
          some ⟨.exponent, negative, whole, fraction, exponentNegative, 0 * 10 + digitOf c⟩ :=
        take?_digit (hdigits c List.mem_cons_self) rfl
      have hrest := foldlM_exponent (fun c hc => hdigits c (List.mem_cons_of_mem _ hc)) negative
        whole fraction exponentNegative (0 * 10 + digitOf c)
      unfold exponentChars
      rw [List.foldlM_cons, hmark, Option.bind_eq_bind, Option.bind_some, List.foldlM_cons, hsign,
        Option.bind_eq_bind, Option.bind_some, List.foldlM_cons, hfirst, Option.bind_eq_bind,
        Option.bind_some, hrest]
      dsimp only [Option.elim]
      rw [Nat.ofDigitChars_cons, Nat.mul_comm 10 0]
      rfl

/-- The scanner takes a well-formed spelling. -/
theorem scanned {s : Spelling} (hs : s.WellFormed) : ofChars? s.chars = some s.scan := by
  have hsplit : s.chars = (if s.negative then ['-'] else []) ++ s.whole ++
      (fractionChars s.fraction ++ exponentChars s.exponent) := by
    unfold chars unsigned
    cases s.negative <;> simp
  have hstage : s.fractionStage = .zero ∨ s.fractionStage = .whole ∨
      s.fractionStage = .fraction := by
    unfold fractionStage wholeStage
    split
    · split
      · exact .inl rfl
      · exact .inr (.inl rfl)
    · exact .inr (.inr rfl)
  rw [hsplit, ofChars?_whole hs, List.foldlM_append, foldlM_fractionChars hs.fraction_digits,
    Option.bind_eq_bind, Option.bind_some]
  exact foldlM_exponentChars hs.exponent_digits hstage _ _ _

/-! ### The number that is said -/

/-- Digits are appended as long as the number has 64 bits. -/
theorem absorb_eq {digits : List Char} {n : Nat}
    (h : Nat.ofDigitChars 10 digits n < 0x10000000000000000) :
    absorb n (digits.map digitOf) = (Nat.ofDigitChars 10 digits n, 0) := by
  induction digits generalizing n with
  | nil => rw [Nat.ofDigitChars_nil]; rfl
  | cons c rest ih =>
    have hcons : Nat.ofDigitChars 10 (c :: rest) n =
        Nat.ofDigitChars 10 rest (n * 10 + digitOf c) := by
      rw [Nat.ofDigitChars_cons, Nat.mul_comm 10 n, digitOf]
    rw [hcons] at h ⊢
    have hle : n * 10 + digitOf c ≤ Nat.ofDigitChars 10 rest (n * 10 + digitOf c) := by
      rw [Nat.ofDigitChars_eq_ofDigitChars_zero]
      have := Nat.le_mul_of_pos_left (n * 10 + digitOf c)
        (Nat.pow_pos (n := rest.length) (show 0 < 10 by decide))
      omega
    rw [List.map_cons, absorb, if_pos (Nat.lt_of_le_of_lt hle h)]
    exact ih h

/-- A whole number of 64 bits, with the sign that was read. -/
theorem value?_scan_whole {s : Spelling} (hfraction : s.fraction = [])
    (hexponent : s.exponent = none)
    {n : Nat} (hvalue : Nat.ofDigitChars 10 s.whole 0 = n) (hn : n < 0x10000000000000000) :
    s.scan.value? =
      if !s.negative then some (.natural n.toUInt64)
      else if h : 0 < n ∧ n ≤ 0x8000000000000000 then some (.negative ⟨n - 1, by omega⟩)
      else (Double.nearest? n 1).map s.scan.signed := by
  have hstage : s.scan.stage = .zero ∨ s.scan.stage = .whole := by
    unfold scan fractionStage wholeStage
    rw [hexponent, if_pos hfraction]
    by_cases hzero : s.whole = ['0']
    · exact .inl (if_pos hzero)
    · exact .inr (if_neg hzero)
  have hwhole : absorb 0 s.scan.whole.reverse = (n, 0) := by
    unfold scan
    rw [List.reverse_reverse, absorb_eq (by rw [hvalue]; exact hn), hvalue]
  unfold NumberScan.value?
  rw [hwhole]
  dsimp only
  rw [if_pos ⟨hstage, rfl⟩]
  rfl

/-- The power of ten of the last digit. -/
def places (s : Spelling) : Int :=
  (s.exponent.elim 0 fun e =>
    if e.1 then -(Nat.ofDigitChars 10 e.2 0 : Int) else (Nat.ofDigitChars 10 e.2 0 : Int)) -
    (s.fraction.length : Int)

/-- A number with a fraction or an exponent is a double. -/
theorem value?_scan_double {s : Spelling} (hdouble : s.fraction ≠ [] ∨ s.exponent.isSome = true)
    (h : Nat.ofDigitChars 10 (s.whole ++ s.fraction) 0 < 0x10000000000000000) :
    s.scan.value? =
      (Double.ofDecimal? (Nat.ofDigitChars 10 (s.whole ++ s.fraction) 0) s.places).map
        s.scan.signed := by
  rw [Nat.ofDigitChars_append] at h ⊢
  have hle : Nat.ofDigitChars 10 s.whole 0 ≤
      Nat.ofDigitChars 10 s.fraction (Nat.ofDigitChars 10 s.whole 0) := by
    rw [Nat.ofDigitChars_eq_ofDigitChars_zero (l := s.fraction)]
    have := Nat.le_mul_of_pos_left (Nat.ofDigitChars 10 s.whole 0)
      (Nat.pow_pos (n := s.fraction.length) (show 0 < 10 by decide))
    omega
  have hwhole : absorb 0 s.scan.whole.reverse = (Nat.ofDigitChars 10 s.whole 0, 0) := by
    unfold scan
    rw [List.reverse_reverse, absorb_eq (Nat.lt_of_le_of_lt hle h)]
  have hfraction : absorb (Nat.ofDigitChars 10 s.whole 0) s.scan.fraction.reverse =
      (Nat.ofDigitChars 10 s.fraction (Nat.ofDigitChars 10 s.whole 0), 0) := by
    unfold scan
    rw [List.reverse_reverse, absorb_eq h]
  have hstage : ¬ (s.scan.stage = .zero ∨ s.scan.stage = .whole) := by
    unfold scan fractionStage wholeStage
    rcases hdouble with hfraction | hexponent
    · by_cases hexponent : s.exponent.isSome = true
      · simp [hexponent]
      · simp [hexponent, hfraction]
    · simp [hexponent]
  have hplaces : ((0 : Nat) : Int) - ((s.scan.fraction.length : Int) - ((0 : Nat) : Int)) +
      (if s.scan.exponentNegative then -(s.scan.exponent : Int) else (s.scan.exponent : Int)) =
        s.places := by
    have hlength : s.scan.fraction.length = s.fraction.length := by
      rw [scan, List.length_reverse, List.length_map]
    have hsign : s.scan.exponentNegative = s.exponent.elim false fun e => e.1 := rfl
    have hpower : s.scan.exponent = s.exponent.elim 0 fun e => Nat.ofDigitChars 10 e.2 0 := rfl
    rw [hlength, hsign, hpower, places]
    cases s.exponent with
    | none => simp
    | some e =>
      obtain ⟨exponentNegative, digits⟩ := e
      cases exponentNegative
      · simp
        omega
      · simp
        omega
  unfold NumberScan.value?
  rw [hwhole]
  dsimp only
  rw [if_neg (fun h => hstage h.1), hfraction]
  dsimp only
  rw [hplaces]

end Spelling

end SilentAuth
