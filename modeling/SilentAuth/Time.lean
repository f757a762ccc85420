/-!
# Unix times and spans in whole seconds

Times and spans are 64-bit numbers of seconds. Their sums stop at the greatest number and their
differences at zero; only a clock that is moved by hand wraps around. Main statements: sums as natural
numbers, and when a time is before another one.
-/

namespace SilentAuth

/-- The greater end of the range of seconds. -/
def lastSecond : Nat := 0xFFFFFFFFFFFFFFFF

/-- The sum of two numbers of seconds, or the greatest one where the sum is beyond it. -/
def addSeconds (a b : UInt64) : UInt64 :=
  if a.toNat + b.toNat ≤ lastSecond then a + b else lastSecond.toUInt64

/-- The difference of two numbers of seconds, or zero where it is negative. -/
def subSeconds (a b : UInt64) : UInt64 := if b ≤ a then a - b else 0

/-- A sum of numbers of seconds, as a natural number. -/
theorem toNat_addSeconds (a b : UInt64) :
    (addSeconds a b).toNat = min (a.toNat + b.toNat) lastSecond := by
  have ha := a.toNat_lt
  have hb := b.toNat_lt
  unfold addSeconds
  split
  · rename_i h
    rw [UInt64.toNat_add]
    simp only [lastSecond] at *
    omega
  · rename_i h
    have : lastSecond.toUInt64.toNat = lastSecond := rfl
    rw [this]
    simp only [lastSecond] at *
    omega

/-- A span of whole seconds. -/
structure Span where
  seconds : UInt64
deriving DecidableEq

/-- Whole seconds since the beginning of 1970, UTC. -/
structure UnixTime where
  seconds : UInt64
deriving DecidableEq

namespace Span

/-- The whole seconds of a span that is given in seconds and billionths of a second. -/
def ofParts (seconds : UInt64) (billionths : UInt32) : Span :=
  ⟨seconds + (billionths / 1000000000).toUInt64⟩

/-- The sum of two spans. -/
def add (a b : Span) : Span := ⟨addSeconds a.seconds b.seconds⟩

end Span

namespace UnixTime

/-- Whether a time is before another one. -/
def before (a b : UnixTime) : Bool := a.seconds < b.seconds

/-- The time a span later. -/
def after (t : UnixTime) (span : Span) : UnixTime := ⟨addSeconds t.seconds span.seconds⟩

/-- The time a span earlier. -/
def earlier (t : UnixTime) (span : Span) : UnixTime := ⟨subSeconds t.seconds span.seconds⟩

/-- The span from an earlier time to a later one. -/
def since (later earlier : UnixTime) : Span := ⟨subSeconds later.seconds earlier.seconds⟩

/-- The time that lies a span after or before the epoch; times before it count as the epoch. -/
def ofEpochOffset (beforeEpoch : Bool) (span : Span) : UnixTime :=
  if beforeEpoch then ⟨0⟩ else ⟨span.seconds⟩

/-- What a clock set to `t` shows after it is moved on by a span; it wraps around. -/
def ticked (t : UnixTime) (span : Span) : UnixTime := ⟨t.seconds + span.seconds⟩

/-- Times are ordered as their numbers of seconds. -/
theorem before_iff {a b : UnixTime} :
    a.before b = true ↔ a.seconds.toNat < b.seconds.toNat := by
  simp [before, UInt64.lt_iff_toNat_lt]

/-- A time that is not before another one is at it or after it. -/
theorem before_eq_false_iff {a b : UnixTime} :
    a.before b = false ↔ b.seconds.toNat ≤ a.seconds.toNat := by
  rw [← Bool.not_eq_true, before_iff, Nat.not_lt]

/-- A time that is not before another one is the same, or the other one is before it. -/
theorem before_eq_false_iff_before_or_eq {a b : UnixTime} :
    a.before b = false ↔ b.before a = true ∨ b = a := by
  have heq : b = a ↔ b.seconds.toNat = a.seconds.toNat := by
    rw [UInt64.toNat_inj]
    cases a
    cases b
    simp
  rw [before_eq_false_iff, before_iff, heq, Nat.le_iff_lt_or_eq]

/-- A sum in the range of times is exact. -/
theorem toNat_after {t : UnixTime} {span : Span}
    (h : t.seconds.toNat + span.seconds.toNat ≤ lastSecond) :
    (t.after span).seconds.toNat = t.seconds.toNat + span.seconds.toNat := by
  rw [after, toNat_addSeconds, Nat.min_eq_left h]

/-- A time past another one by a span is before an end exactly if the exact sum is, whatever the
sizes, since no end is beyond the greatest second. -/
theorem after_before_iff {t stop : UnixTime} {span : Span} :
    (t.after span).before stop = true ↔
      t.seconds.toNat + span.seconds.toNat < stop.seconds.toNat := by
  have hs := stop.seconds.toNat_lt
  rw [before_iff, after, toNat_addSeconds]
  simp only [lastSecond]
  omega

end UnixTime

end SilentAuth
