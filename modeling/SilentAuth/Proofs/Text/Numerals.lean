import Mathlib.Data.List.TakeWhile
import SilentAuth.Proofs.Text.Words
import SilentAuth.Text.Numeral

/-!
# Numbers in texts

A number of seconds stands in a text in decimal digits, perhaps after a plus sign and with blanks
around it.

* `Numeral.Spells`, `Numeral.StandsIn`: the characters that say a number, alone or between blanks.
* `Numeral.read?_eq_some_iff`, `Numeral.read?_trimBlank_eq_some_iff`: a text is read as a number
  exactly if it says it.
* `Numeral.read?_trimBlank_write`: a number is read as it was written.
-/

namespace SilentAuth

/-! ### Blanks around a text -/

/-- A text is what is left of it when it is trimmed, with blanks around it. -/
theorem exists_append_trimBlank_append (s : String) :
    ∃ before after, s.toList = before ++ (trimBlank s).toList ++ after ∧
      (∀ c ∈ before, isBlank c = true) ∧ ∀ c ∈ after, isBlank c = true := by
  let rest := s.toList.dropWhile isBlank
  have hrest : rest =
      (rest.reverse.dropWhile isBlank).reverse ++ (rest.reverse.takeWhile isBlank).reverse := by
    rw [← List.reverse_append, List.takeWhile_append_dropWhile, List.reverse_reverse]
  refine ⟨s.toList.takeWhile isBlank, (rest.reverse.takeWhile isBlank).reverse, ?_, ?_, ?_⟩
  · rw [trimBlank, String.toList_ofList, List.append_assoc, ← hrest]
    exact List.takeWhile_append_dropWhile.symm
  · exact fun c hc => List.mem_takeWhile_imp hc
  · exact fun c hc => List.mem_takeWhile_imp (List.mem_reverse.1 hc)

/-- Blanks are dropped up to a character that is none. -/
theorem dropWhile_isBlank_append {blanks cs rest : List Char}
    (hblanks : ∀ c ∈ blanks, isBlank c = true) (hcs : ∀ c ∈ cs, isBlank c = false)
    (hne : cs ≠ []) : (blanks ++ cs ++ rest).dropWhile isBlank = cs ++ rest := by
  obtain ⟨c, cs, rfl⟩ := List.exists_cons_of_ne_nil hne
  rw [List.append_assoc, List.dropWhile_append_of_pos hblanks, List.cons_append,
    List.dropWhile_cons_of_neg (by simp [hcs c List.mem_cons_self])]

/-- Blanks around characters that are none are cut off. -/
theorem trimBlank_of_append {s : String} {before cs after : List Char}
    (hs : s.toList = before ++ cs ++ after) (hbefore : ∀ c ∈ before, isBlank c = true)
    (hafter : ∀ c ∈ after, isBlank c = true) (hcs : ∀ c ∈ cs, isBlank c = false)
    (hne : cs ≠ []) : trimBlank s = String.ofList cs := by
  have hback : (cs ++ after).reverse.dropWhile isBlank = cs.reverse := by
    have hdropped : (after.reverse ++ cs.reverse ++ []).dropWhile isBlank = cs.reverse ++ [] :=
      dropWhile_isBlank_append (fun c hc => hafter c (List.mem_reverse.1 hc))
        (fun c hc => hcs c (List.mem_reverse.1 hc)) (List.reverse_ne_nil_iff.2 hne)
    rwa [List.append_nil, List.append_nil, ← List.reverse_append] at hdropped
  rw [trimBlank, hs, dropWhile_isBlank_append hbefore hcs hne, hback, List.reverse_reverse]

namespace Numeral

/-! ### Characters that say a number -/

/-- Characters that say a number in decimal. -/
inductive Spells : List Char → Nat → Prop where
  /-- Digits, of which there is at least one. -/
  | digits {cs : List Char} (hne : cs ≠ []) (h : ∀ c ∈ cs, c.isDigit = true) :
      Spells cs (Nat.ofDigitChars 10 cs 0)
  /-- Digits after a plus sign. -/
  | signed {cs : List Char} (hne : cs ≠ []) (h : ∀ c ∈ cs, c.isDigit = true) :
      Spells ('+' :: cs) (Nat.ofDigitChars 10 cs 0)

/-- The characters that say a number stand in a text, with nothing but blanks around them. -/
def StandsIn (s : String) (n : Nat) : Prop :=
  ∃ before cs after, s.toList = before ++ cs ++ after ∧ (∀ c ∈ before, isBlank c = true) ∧
    (∀ c ∈ after, isBlank c = true) ∧ Spells cs n

/-- The digits are the characters from 0 to 9. -/
theorem isDigit_iff_range {c : Char} : c.isDigit = true ↔ '0' ≤ c ∧ c ≤ '9' := by
  simp [Char.isDigit, Char.le_def]

/-- No digit is blank. -/
theorem isBlank_of_isDigit {c : Char} (h : c.isDigit = true) : isBlank c = false := by
  have hdigit : 48 ≤ c.toNat ∧ c.toNat ≤ 57 := Char.isDigit_iff_toNat.1 h
  simp only [isBlank, Bool.or_eq_false_iff, Bool.and_eq_false_iff, decide_eq_false_iff_not,
    beq_eq_false_iff_ne]
  omega

/-- A text that says a number is not empty. -/
theorem Spells.ne_nil {cs : List Char} {n : Nat} (h : Spells cs n) : cs ≠ [] := by
  cases h with
  | digits hne _ => exact hne
  | signed _ _ => exact List.cons_ne_nil _ _

/-- Nothing in a text that says a number is blank. -/
theorem Spells.isBlank_eq_false {cs : List Char} {n : Nat} (h : Spells cs n) :
    ∀ c ∈ cs, isBlank c = false := by
  cases h with
  | digits _ h => exact fun c hc => isBlank_of_isDigit (h c hc)
  | signed _ h =>
    exact List.forall_mem_cons.2 ⟨by decide, fun c hc => isBlank_of_isDigit (h c hc)⟩

/-! ### Reading it -/

/-- The number that characters say, if all of them are digits. -/
theorem digits?_eq_some_iff {cs : List Char} {n m : Nat} :
    digits? n cs = some m ↔ (∀ c ∈ cs, c.isDigit = true) ∧ Nat.ofDigitChars 10 cs n = m := by
  induction cs generalizing n with
  | nil => simp [digits?]
  | cons c rest ih =>
    rw [digits?, List.forall_mem_cons, isDigit_iff_range, Nat.ofDigitChars_cons, Nat.mul_comm 10 n]
    split
    · rename_i hrange
      rw [ih]
      simp [hrange]
    · rename_i hrange
      simp [hrange]

/-- Digits, at least one, are read as their decimal value, and nothing else is. -/
theorem natural?_eq_some_iff {cs : List Char} {n : Nat} :
    natural? cs = some n ↔
      cs ≠ [] ∧ (∀ c ∈ cs, c.isDigit = true) ∧ Nat.ofDigitChars 10 cs 0 = n := by
  rw [natural?, ← digits?_eq_some_iff]
  cases cs <;> simp

/-- The digits are those behind a plus sign, if there is one. -/
theorem natural?_tail_eq_some_iff {cs : List Char} {n : Nat} :
    natural? (if cs.head? = some '+' then cs.tail else cs) = some n ↔ Spells cs n := by
  rw [natural?_eq_some_iff]
  constructor
  · split
    · rename_i hplus
      rintro ⟨hne, hdigits, rfl⟩
      rw [← List.cons_head?_tail hplus]
      exact .signed hne hdigits
    · rintro ⟨hne, hdigits, rfl⟩
      exact .digits hne hdigits
  · intro h
    cases h with
    | digits hne hdigits =>
      have hplus : cs.head? ≠ some '+' := by
        intro hplus
        have hdigit := hdigits '+' (List.mem_of_mem_head? hplus)
        exact absurd hdigit (by decide)
      rw [if_neg hplus]
      exact ⟨hne, hdigits, rfl⟩
    | signed hne hdigits => exact ⟨hne, hdigits, rfl⟩

/-- A text is read as a number exactly if its characters say it. -/
theorem read?_eq_some_iff {s : String} {n : UInt64} :
    read? s = some n ↔ Spells s.toList n.toNat := by
  simp only [read?, Option.bind_eq_bind, Option.bind_eq_some_iff, natural?_tail_eq_some_iff,
    Option.ite_none_right_eq_some, Option.some.injEq]
  constructor
  · rintro ⟨m, hm, hlt, rfl⟩
    rwa [Nat.toUInt64_eq, UInt64.toNat_ofNat_of_lt' hlt]
  · intro h
    exact ⟨n.toNat, h, n.toNat_lt, UInt64.ofNat_toNat⟩

/-- A text is read as a number, without the blanks at its ends, exactly if it stands there. -/
theorem read?_trimBlank_eq_some_iff {s : String} {n : UInt64} :
    read? (trimBlank s) = some n ↔ StandsIn s n.toNat := by
  rw [read?_eq_some_iff]
  constructor
  · intro h
    obtain ⟨before, after, hs, hbefore, hafter⟩ := exists_append_trimBlank_append s
    exact ⟨before, _, after, hs, hbefore, hafter, h⟩
  · rintro ⟨before, cs, after, hs, hbefore, hafter, h⟩
    rw [trimBlank_of_append hs hbefore hafter h.isBlank_eq_false h.ne_nil, String.toList_ofList]
    exact h

/-! ### What was written -/

/-- A number is written in its digits. -/
theorem spells_write (n : Nat) : Spells (write n).toList n := by
  have hdigits : ∀ c ∈ Nat.toDigits 10 n, c.isDigit = true :=
    fun _ hc => Nat.isDigit_of_mem_toDigits (by decide) le_rfl hc
  have hspells := Spells.digits (by simp) hdigits
  rw [Nat.ofDigitChars_ten_toDigits] at hspells
  rwa [write, String.toList_ofList]

/-- A number is read as it was written. -/
theorem read?_trimBlank_write (n : UInt64) : read? (trimBlank (write n.toNat)) = some n :=
  read?_trimBlank_eq_some_iff.2 ⟨[], _, [], by simp, nofun, nofun, spells_write n.toNat⟩

end Numeral

end SilentAuth
