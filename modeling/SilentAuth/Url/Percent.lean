import SilentAuth.Text.Utf8

/-!
# Percent encoding

Each part of a URL has its own set of characters that may not stand there as they are. Controls and
everything beyond ASCII always are encoded, byte by byte, with upper-case hexadecimal digits. Form
encoding, in addition, keeps few characters and writes a space as a plus sign.
-/

namespace SilentAuth

namespace Percent

/-- The characters of ASCII that a part of a URL does not hold as they are, besides the controls. -/
structure CharSet where
  encoded : List Char

/-- Nothing but the controls. -/
def controls : CharSet := ⟨[]⟩

/-- What a fragment encodes. -/
def fragment : CharSet := ⟨[' ', '"', '<', '>', '\x60']⟩

/-- What a query encodes. -/
def query : CharSet := ⟨[' ', '"', '#', '<', '>']⟩

/-- What a query encodes in a URL of a special scheme. -/
def specialQuery : CharSet := ⟨'\'' :: query.encoded⟩

/-- What a path encodes. -/
def path : CharSet := ⟨'#' :: '?' :: '\x7b' :: '\x7d' :: fragment.encoded⟩

/-- What user names and passwords encode. -/
def userInfo : CharSet := ⟨['/', ':', ';', '=', '@', '[', '\\', ']', '^', '|'] ++ path.encoded⟩

/-- Whether a character has to be encoded. -/
def CharSet.encodes (set : CharSet) (c : Char) : Bool :=
  c.toNat < 0x20 || 0x7E < c.toNat || set.encoded.contains c

/-- An upper-case hexadecimal digit. -/
def hexDigit (n : Nat) : Char := (Nat.digitChar n).toUpper

/-- A byte as a percent sign and two digits. -/
def encodeByte (b : UInt8) : List Char :=
  ['%', hexDigit (b.toNat / 16), hexDigit (b.toNat % 16)]

/-- A character as it stands in a part of a URL. -/
def encodeChar (set : CharSet) (c : Char) : List Char :=
  if set.encodes c then (String.utf8EncodeChar c).flatMap encodeByte else [c]

/-- A text as it stands in a part of a URL. -/
def encode (set : CharSet) (cs : List Char) : List Char := cs.flatMap (encodeChar set)

/-- The value of a hexadecimal digit. -/
def hexValue? (b : UInt8) : Option Nat :=
  let n := b.toNat
  if 0x30 ≤ n ∧ n ≤ 0x39 then some (n - 0x30)
  else if 0x41 ≤ n ∧ n ≤ 0x46 then some (n - 0x41 + 10)
  else if 0x61 ≤ n ∧ n ≤ 0x66 then some (n - 0x61 + 10)
  else none

/-- The bytes that percent-encoded bytes stand for. A percent sign without two digits stands for
itself. -/
def decode : List UInt8 → List UInt8
  | [] => []
  | b :: rest =>
    if b.toNat = 0x25 then
      match rest with
      | h :: l :: rest' =>
        match hexValue? h, hexValue? l with
        | some h', some l' => (h' * 16 + l').toUInt8 :: decode rest'
        | _, _ => b :: decode (h :: l :: rest')
      | [h] => [b, h]
      | [] => [b]
    else b :: decode rest

/-- A byte as it stands in form data. -/
def encodeFormByte (b : UInt8) : List Char :=
  let c := Char.ofNat b.toNat
  if b.toNat = 0x20 then ['+']
  else if b.toNat < 0x80 ∧ (c.isAlphanum ∨ c = '*' ∨ c = '-' ∨ c = '.' ∨ c = '_') then [c]
  else encodeByte b

/-- A text as it stands in form data. -/
def encodeForm (s : String) : List Char := (Utf8.encode s.toList).flatMap encodeFormByte

/-- Pairs of names and values as form data. -/
def encodeForms (pairs : List (String × String)) : String :=
  String.intercalate "&"
    (pairs.map fun p => String.ofList (encodeForm p.1 ++ '=' :: encodeForm p.2))

end Percent

end SilentAuth
