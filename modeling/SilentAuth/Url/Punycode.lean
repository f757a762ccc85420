/-!
# Punycode

A label with characters beyond ASCII is written as its ASCII characters, a hyphen, and digits. The
digits say, for each other character in the order of codes, how many positions were passed since the
last one, where a pass through the text counts one position for each gap in it. Numbers are written
with the least digit first; from which value on a digit is the last one depends on how large recent
numbers were.
-/

namespace SilentAuth

namespace Punycode

/-- The digit of a value below 36. -/
def digitChar (d : Nat) : Char :=
  if d < 26 then Char.ofNat ('a'.toNat + d) else Char.ofNat ('0'.toNat + (d - 26))

/-- The value of a digit. -/
def digitValue? (c : Char) : Option Nat :=
  if 'a' ≤ c ∧ c ≤ 'z' then some (c.toNat - 'a'.toNat)
  else if 'A' ≤ c ∧ c ≤ 'Z' then some (c.toNat - 'A'.toNat)
  else if '0' ≤ c ∧ c ≤ '9' then some (c.toNat - '0'.toNat + 26)
  else none

/-- The least value of a digit, at place `36, 72, …`, after which the number goes on. -/
def threshold (place bias : Nat) : Nat := min 26 (max 1 (place - bias))

/-- Divides a number by 35 until it is small; the second result adds 36 for each step. -/
def shrink (delta : Nat) : Nat × Nat :=
  if 455 < delta then
    let (rest, places) := shrink (delta / 35)
    (rest, places + 36)
  else (delta, 0)
termination_by delta
decreasing_by omega

/-- The bias after a number was written or read, when `count` characters are in place. -/
def adapt (delta count : Nat) (isFirst : Bool) : Nat :=
  let scaled := if isFirst then delta / 700 else delta / 2
  let (rest, places) := shrink (scaled + scaled / count)
  places + 36 * rest / (rest + 38)

/-! ### Writing -/

/-- A threshold is above zero. -/
theorem threshold_pos (place bias : Nat) : 0 < threshold place bias := by
  unfold threshold
  omega

/-- The digits of a number. -/
def digits (bias place q : Nat) : List Char :=
  let t := threshold place bias
  if q < t then [digitChar q]
  else digitChar (t + (q - t) % (36 - t)) :: digits bias (place + 36) ((q - t) / (36 - t))
termination_by q
decreasing_by
  have := threshold_pos place bias
  have := Nat.div_le_self (q - threshold place bias) (36 - threshold place bias)
  omega

/-- A label being written. -/
structure Writer where
  /-- The digits so far. -/
  output : List Char
  /-- The positions passed since the last number. -/
  delta : Nat
  bias : Nat
  /-- The number of characters that are in place. -/
  placed : Nat

/-- Passes a character of the label while those with the code `code` are being put in place. -/
def Writer.pass (basic code : Nat) (w : Writer) (c : Char) : Writer :=
  if c.toNat < code then { w with delta := w.delta + 1 }
  else if c.toNat = code then
    { output := w.output ++ digits w.bias 36 w.delta
      delta := 0
      bias := adapt w.delta (w.placed + 1) (w.placed == basic)
      placed := w.placed + 1 }
  else w

/-- Puts the characters with the given codes in place, in ascending order, when all below `next`
are. -/
def writeFrom (label : List Char) (basic next : Nat) (w : Writer) : List Nat → Writer
  | [] => w
  | code :: codes =>
    let start := { w with delta := w.delta + (code - next) * (w.placed + 1) }
    let done := label.foldl (Writer.pass basic code) start
    writeFrom label basic (code + 1) { done with delta := done.delta + 1 } codes

/-- Puts a number in its place in an ascending list without repetitions. -/
def insertCode (n : Nat) : List Nat → List Nat
  | [] => [n]
  | m :: rest =>
    if n < m then n :: m :: rest
    else if n = m then m :: rest
    else m :: insertCode n rest

/-- A label in Punycode. -/
def encode (label : List Char) : List Char :=
  let ascii := label.filter fun c => c.toNat < 0x80
  let others := label.filter fun c => 0x80 ≤ c.toNat
  let codes := others.foldl (fun codes c => insertCode c.toNat codes) []
  let written := writeFrom label ascii.length 0x80 ⟨[], 0, 72, ascii.length⟩ codes
  (if ascii.isEmpty then [] else ascii ++ ['-']) ++ written.output

/-! ### Reading -/

/-- A label being read. -/
structure Reader where
  /-- The characters in place. -/
  output : List Char
  /-- The code that is being put in place. -/
  code : Nat
  /-- The position reached, with the part of the number that was read. -/
  position : Nat
  /-- The position before the number. -/
  before : Nat
  bias : Nat
  /-- The weight of the next digit. -/
  weight : Nat
  /-- The place of the next digit. -/
  place : Nat

/-- Puts a character at a position. -/
def insertAt (c : Char) (position : Nat) (cs : List Char) : List Char :=
  cs.take position ++ c :: cs.drop position

/-- Takes a digit. -/
def Reader.take? (r : Reader) (c : Char) : Option Reader := do
  let d ← digitValue? c
  let position := r.position + d * r.weight
  let t := threshold r.place r.bias
  if t ≤ d then
    some { r with position, weight := r.weight * (36 - t), place := r.place + 36 }
  else
    let count := r.output.length + 1
    let code := r.code + position / count
    if code.isValidChar then
      let index := position % count
      some {
        output := insertAt (Char.ofNat code) index r.output
        code
        position := index + 1
        before := index + 1
        bias := adapt (position - r.before) count (r.before = 0)
        weight := 1
        place := 36 }
    else none

/-- The label that a text says in Punycode. A hyphen before which nothing stands sets nothing off,
and is no digit either. -/
def decode? (cs : List Char) : Option (List Char) := do
  let tail := (cs.reverse.takeWhile (· != '-')).reverse
  let ascii := cs.take (cs.length - tail.length - 1)
  let code := if ascii.isEmpty then cs else tail
  let r ← code.foldlM Reader.take? ⟨ascii, 0x80, 0, 0, 72, 1, 36⟩
  if r.place = 36 then some r.output else none

end Punycode

end SilentAuth
