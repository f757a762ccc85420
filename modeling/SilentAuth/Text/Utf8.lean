/-!
# UTF-8

Encoding texts as bytes, and decoding bytes. Bytes that encode no character decode to `none`, one
for each longest run that begins an encoding but does not complete it; `lossy` shows those as
U+FFFD.
-/

namespace SilentAuth

namespace Utf8

/-- The bytes of a list of characters. -/
def encode (cs : List Char) : List UInt8 := cs.flatMap String.utf8EncodeChar

/-- An encoding of which some bytes were read: the number of bytes to come, the range that the next
one has to lie in, and the bits read so far. -/
structure Partial where
  missing : Nat
  low : Nat
  high : Nat
  bits : Nat

/-- What a byte says at the start of an encoding. -/
inductive Lead where
  /-- A character of one byte. -/
  | whole (c : Char)
  /-- The first of several bytes. -/
  | first (p : Partial)
  /-- A byte that begins no encoding. -/
  | wrong

/-- Reads a byte at the start of an encoding. -/
def lead (b : Nat) : Lead :=
  if b < 0x80 then .whole (Char.ofNat b)
  else if 0xC2 ≤ b ∧ b ≤ 0xDF then .first ⟨1, 0x80, 0xBF, b - 0xC0⟩
  else if b = 0xE0 then .first ⟨2, 0xA0, 0xBF, 0⟩
  else if b = 0xED then .first ⟨2, 0x80, 0x9F, 0xD⟩
  else if 0xE1 ≤ b ∧ b ≤ 0xEF then .first ⟨2, 0x80, 0xBF, b - 0xE0⟩
  else if b = 0xF0 then .first ⟨3, 0x90, 0xBF, 0⟩
  else if 0xF1 ≤ b ∧ b ≤ 0xF3 then .first ⟨3, 0x80, 0xBF, b - 0xF0⟩
  else if b = 0xF4 then .first ⟨3, 0x80, 0x8F, 4⟩
  else .wrong

/-- What a byte at the start of an encoding completes, and what is left begun. -/
def start (b : Nat) : List (Option Char) × Option Partial :=
  match lead b with
  | .whole c => ([some c], none)
  | .first p => ([], some p)
  | .wrong => ([none], none)

/-- What a byte completes, and what is left begun. A byte that does not go on with an encoding
breaks it off and stands at the start of the next one. -/
def step (state : Option Partial) (b : Nat) : List (Option Char) × Option Partial :=
  match state with
  | none => start b
  | some p =>
    if p.low ≤ b ∧ b ≤ p.high then
      let bits := p.bits * 64 + (b - 0x80)
      if p.missing = 1 then ([some (Char.ofNat bits)], none)
      else ([], some ⟨p.missing - 1, 0x80, 0xBF, bits⟩)
    else
      let (done, next) := start b
      (none :: done, next)

/-- Decodes bytes, some of the first character having been read. -/
def decodeFrom (state : Option Partial) : List UInt8 → List (Option Char)
  | [] => if state.isSome then [none] else []
  | byte :: rest =>
    let (done, next) := step state byte.toNat
    done ++ decodeFrom next rest

/-- Decodes bytes; what encodes no character becomes `none`. -/
def decode (bytes : List UInt8) : List (Option Char) := decodeFrom none bytes

/-- The text of bytes that are UTF-8 throughout. -/
def decode? (bytes : List UInt8) : Option String := ((decode bytes).mapM id).map String.ofList

/-- The text of bytes, with U+FFFD for what encodes no character. -/
def lossy (bytes : List UInt8) : List Char := (decode bytes).map (·.getD '\uFFFD')

end Utf8

end SilentAuth
