import SilentAuth.Text.Split

/-!
# Internet addresses as hosts

The last label of a host name tells whether the name is an IPv4 address; its parts may be written
in decimal, octal or hexadecimal, and the last part fills all bytes that are left. An IPv6 address
stands between brackets; its text shortens the first longest run of zeros.
-/

namespace SilentAuth

namespace Ipv4

/-- The value of a digit up to `f`. -/
def digitValue? (c : Char) : Option Nat :=
  if '0' ≤ c ∧ c ≤ '9' then some (c.toNat - '0'.toNat)
  else if 'a' ≤ c ∧ c ≤ 'f' then some (c.toNat - 'a'.toNat + 10)
  else if 'A' ≤ c ∧ c ≤ 'F' then some (c.toNat - 'A'.toNat + 10)
  else none

/-- The number that digits of a base say; no digits say zero. -/
def digits? (base : Nat) (cs : List Char) : Option Nat :=
  cs.foldlM (fun n c => do
    let d ← digitValue? c
    if d < base then some (n * base + d) else none) 0

/-- The number a part of an address says: hexadecimal after `0x`, octal after `0`, else decimal. -/
def part? : List Char → Option Nat
  | [] => none
  | '0' :: 'x' :: rest | '0' :: 'X' :: rest => digits? 16 rest
  | '0' :: c :: rest => digits? 8 (c :: rest)
  | cs => digits? 10 cs

/-- Whether a host name is meant as an address: its last label, not counting an empty one after a
final dot, has only digits or is a number. -/
def isMeant (host : List Char) : Bool :=
  let labels := (splitAll (· = '.') host).reverse
  let last? : Option (List Char) :=
    match labels with
    | [] :: previous :: _ => some previous
    | [] :: [] => none
    | last :: _ => some last
    | [] => none
  match last? with
  | none => false
  | some last => (!last.isEmpty && last.all Char.isDigit) || (part? last).isSome

/-- The bytes of numbers, each of which has to be one byte, before a last number that fills the
remaining bytes of the address. -/
def combine? (parts : List Nat) : Option Nat :=
  match parts.reverse with
  | [] => none
  | last :: firsts =>
    if 4 < parts.length then none
    else if firsts.any (255 < ·) then none
    else if 1 <<< (8 * (5 - parts.length)) ≤ last then none
    else some ((firsts.reverse.foldl (fun n b => n * 256 + b) 0 <<< (8 * (5 - parts.length))) + last)

/-- The address that a host name says. -/
def read? (host : List Char) : Option Nat := do
  let labels := splitAll (· = '.') host
  let parts := if labels.getLast? = some [] then labels.dropLast else labels
  combine? (← parts.mapM part?)

/-- The four decimal numbers of an address, with dots between them. -/
def write (address : Nat) : List Char :=
  let byte (i : Nat) : List Char := Nat.toDigits 10 ((address >>> (8 * i)) % 256)
  byte 3 ++ '.' :: byte 2 ++ '.' :: byte 1 ++ '.' :: byte 0

end Ipv4

namespace Ipv6

/-- The number that one to four hexadecimal digits say. -/
def piece? (cs : List Char) : Option Nat :=
  if cs.isEmpty ∨ 4 < cs.length then none else Ipv4.digits? 16 cs

/-- A decimal number below 256 without a leading zero. -/
def byte? (cs : List Char) : Option Nat := do
  if cs.isEmpty ∨ 3 < cs.length ∨ (cs.head? = some '0' ∧ 1 < cs.length) then none
  else
    let n ← Ipv4.digits? 10 cs
    if n < 256 then some n else none

/-- The two pieces that an IPv4 address at the end of an IPv6 address says. -/
def embedded? (cs : List Char) : Option (List Nat) := do
  match ← (splitAll (· = '.') cs).mapM byte? with
  | [a, b, c, d] => some [a * 256 + b, c * 256 + d]
  | _ => none

/-- The pieces that a run of them between colons says; the last one may be an IPv4 address if the
run ends the address. -/
def run? (endsAddress : Bool) : List (List Char) → Option (List Nat)
  | [] => some []
  | [last] =>
    if endsAddress && last.contains '.' then embedded? last else (piece? last).map ([·])
  | first :: rest => do return (← piece? first) :: (← run? endsAddress rest)

/-- Cuts a text at its first double colon. -/
def cutAtGap : List Char → Option (List Char × List Char)
  | [] => none
  | ':' :: ':' :: rest => some ([], rest)
  | c :: rest => (cutAtGap rest).map fun (before, after) => (c :: before, after)

/-- The pieces that a text without a gap says; an empty text says none. -/
def pieces? (endsAddress : Bool) (cs : List Char) : Option (List Nat) :=
  if cs.isEmpty then some [] else run? endsAddress (splitAll (· = ':') cs)

/-- The eight pieces of the address that a text says. A double colon, which may occur once, stands
for at least one piece that is zero. -/
def read? (cs : List Char) : Option (List Nat) := do
  match cutAtGap cs with
  | none =>
    let pieces ← pieces? true cs
    if pieces.length = 8 then some pieces else none
  | some (before, after) =>
    let head ← pieces? false before
    let tail ← pieces? true after
    if head.length + tail.length < 8 then
      some (head ++ List.replicate (8 - head.length - tail.length) 0 ++ tail)
    else none

/-- The length of the run of zeros at the start of a list. -/
def zeroRun (pieces : List Nat) : Nat := (pieces.takeWhile (· = 0)).length

/-- The place and length of the first longest run of zeros. -/
def longestZeroRun (index : Nat) : List Nat → Nat × Nat
  | [] => (index, 0)
  | p :: rest =>
    let here := zeroRun (p :: rest)
    let later := longestZeroRun (index + 1) rest
    if later.2 ≤ here then (index, here) else later

/-- Pieces in hexadecimal, with colons between them. -/
def writePieces (pieces : List Nat) : List Char :=
  List.intercalate [':'] (pieces.map (Nat.toDigits 16))

/-- The text of an address. The first longest run of at least two zeros is left out. -/
def write (pieces : List Nat) : List Char :=
  let gap := longestZeroRun 0 pieces
  if gap.2 < 2 then writePieces pieces
  else writePieces (pieces.take gap.1) ++ ':' :: ':' :: writePieces (pieces.drop (gap.1 + gap.2))

end Ipv6

end SilentAuth
