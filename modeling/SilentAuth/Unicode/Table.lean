import SilentAuth.Text.Blank

/-!
# Tables of characters

A table lists ranges of character codes as hexadecimal text, with blanks between its rows. A range
may skip codes at a regular distance, and a row may say something about its range after a colon.
-/

namespace SilentAuth

/-- The codes `first`, `first + step` and so on, up to `last`. -/
structure CodeRange where
  first : Nat
  last : Nat
  step : Nat

namespace CodeRange

/-- Whether a code is in the range. -/
def has (r : CodeRange) (n : Nat) : Bool :=
  r.first ≤ n && n ≤ r.last && (n - r.first) % r.step == 0

/-- The number that upper-case hexadecimal digits say. -/
def hexNumber (cs : List Char) : Nat :=
  cs.foldl (fun n c => n * 16 + (if c.isDigit then c.toNat - 48 else c.toNat - 55)) 0

/-- The part of a text before a character, and the part after it. -/
def cut (mark : Char) (cs : List Char) : List Char × List Char :=
  (cs.takeWhile (· != mark), (cs.dropWhile (· != mark)).tail)

/-- The range that a text says. -/
def parse (cs : List Char) : CodeRange :=
  let (bounds, step) := cut '/' cs
  let (first, last) := cut '-' bounds
  let first := hexNumber first
  { first
    last := if last.isEmpty then first else hexNumber last
    step := if step.isEmpty then 1 else hexNumber step }

/-- The rows of a table: ranges, and what is said about each. -/
def rows (text : String) : List (CodeRange × List Char) :=
  (runsBetween isBlank [] text.toList).map fun row =>
    let (range, value) := cut ':' row
    (parse range, value)

/-- A table that says nothing about its ranges. -/
def parseAll (text : String) : List CodeRange := (rows text).map Prod.fst

/-- A table that says numbers about its ranges, with dots between them. -/
def parseRows (text : String) : List (CodeRange × List Nat) :=
  (rows text).map fun row => (row.1, (runsBetween (· == '.') [] row.2).map hexNumber)

/-- A table that says a name about its ranges. -/
def parseNames (text : String) : List (CodeRange × String) :=
  (rows text).map fun row => (row.1, String.ofList row.2)

end CodeRange

end SilentAuth
