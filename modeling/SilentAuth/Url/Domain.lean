import SilentAuth.Unicode.Direction
import SilentAuth.Unicode.HostMapping
import SilentAuth.Unicode.Joining
import SilentAuth.Url.Address
import SilentAuth.Url.Punycode

/-!
# Host names in ASCII

A host name is mapped character by character, composed, and cut into labels at its dots; labels with
characters beyond ASCII are then written in Punycode behind the tag `xn--`. A label that is so
written already has to say a label that needs no mapping.
-/

namespace SilentAuth

namespace Domain

/-- The ASCII characters that no host name holds. -/
def isForbidden (c : Char) : Bool :=
  c.toNat ≤ 0x20 || c.toNat = 0x7F || "%#/:<>?@[\\]^|".toList.contains c

/-- What becomes of a character of a host name before composition. A forbidden one stands: a mark
after it may yet make it another character. -/
def status (c : Char) : HostStatus :=
  if c.toNat < 0x80 then
    if c.isUpper then .mapped [c.toLower] else .valid
  else HostStatus.ofChar c

/-- The characters that a character is mapped to. -/
def map? (c : Char) : Option (List Char) :=
  match status c with
  | .valid => some [c]
  | .ignored => some []
  | .mapped target => some target
  | .disallowed => none

/-- Whether all characters are ASCII. -/
def isAscii (cs : List Char) : Bool := cs.all fun c => c.toNat < 0x80

/-- What a label in Punycode begins with. -/
def tag : List Char := ['x', 'n', '-', '-']

/-- Whether a label stands for itself: its characters are not forbidden and need no mapping, it is
composed, it does not begin with a mark, and its joiners stand where they may. -/
def isValidLabel (label : List Char) : Bool :=
  label.all (fun c => status c == .valid && !isForbidden c && c != '.') &&
    Composition.compose label == label && !(label.head?.elim false Joining.isMark) &&
    Joining.joinersAllowed [] label

/-- The longest code that is read as Punycode. -/
def longestCode : Nat := 2000

/-- The longest label with characters beyond ASCII. -/
def longestLabel : Nat := 1000

/-- A label in both its forms. -/
structure Label where
  /-- The label as it is meant. -/
  meant : List Char
  /-- The label in ASCII. -/
  ascii : List Char

/-- A label that is already in Punycode; what it says is not ASCII throughout. -/
def Label.ofTagged? (label : List Char) : Option Label := do
  let code := label.drop tag.length
  if !isAscii label || code.isEmpty || code.getLast? = some '-' || longestCode < code.length then
    none
  else
    let meant ← Punycode.decode? code
    if isValidLabel meant && !isAscii meant && meant.length ≤ longestLabel then
      some ⟨meant, label⟩
    else none

/-- A label that is not in Punycode. What is written in Punycode has to be read back the same. -/
def Label.ofUntagged? (label : List Char) : Option Label :=
  if !isValidLabel label then none
  else if isAscii label then some ⟨label, label⟩
  else if longestLabel < label.length then none
  else
    let code := Punycode.encode label
    if Punycode.decode? code = some label then some ⟨label, tag ++ code⟩ else none

/-- A mapped label in both its forms. -/
def Label.of? (label : List Char) : Option Label :=
  if label.take tag.length = tag then ofTagged? label else ofUntagged? label

/-- The host name in ASCII. -/
def toAscii? (name : List Char) : Option (List Char) := do
  let mapped ← name.mapM map?
  let labels ← (splitAll (· = '.') (Composition.compose mapped.flatten)).mapM Label.of?
  if Direction.isConsistent (labels.map Label.meant) then
    some (List.intercalate ['.'] (labels.map Label.ascii))
  else none

end Domain

end SilentAuth
