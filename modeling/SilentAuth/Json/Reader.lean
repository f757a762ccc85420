import SilentAuth.Json.Value

/-!
# Reading JSON text

The reader is a machine that takes one character at a time and keeps the containers still open on a
stack, so it nests as deep as its input. It yields a `ParseTree`, which differs from a value in two
ways: members stand in the order of the text with repeated keys kept, and a string that is no
Unicode text or a number beyond the doubles is marked where it stands. Whoever reads a tree decides
whether such a mark matters, since skipped parts of a text may hold them.

Main definitions: `ParseTree`, `ParseTree.read?` and `ParseTree.value?`.
-/

namespace SilentAuth

/-! ### Trees -/

/-- What a JSON text says. -/
inductive ParseTree where
  | null
  | bool (b : Bool)
  /-- A number, unless it is beyond the doubles. -/
  | number (n : Option Number)
  /-- A string, unless it holds half a surrogate pair or bytes that are not UTF-8. -/
  | string (s : Option String)
  | array (items : List ParseTree)
  | object (members : List (Option String × ParseTree))

namespace ParseTree

instance : Inhabited ParseTree := ⟨.null⟩

mutual

/-- The value of a tree with at most `depth` containers around each other. Of members with one key
the last one counts. -/
def value? (depth : Nat) : ParseTree → Option Json
  | .null => some .null
  | .bool b => some (.bool b)
  | .number n => n.map .number
  | .string s => s.map .string
  | .array items => if depth = 0 then none else (values? (depth - 1) items).map .array
  | .object members =>
    if depth = 0 then none else (memberValues? (depth - 1) [] members).map .object

/-- The values of the items of an array. -/
def values? (depth : Nat) : List ParseTree → Option (List Json)
  | [] => some []
  | item :: rest => do return (← value? depth item) :: (← values? depth rest)

/-- Stores the values of the members of an object over those already stored. -/
def memberValues? (depth : Nat) (stored : List (String × Json)) :
    List (Option String × ParseTree) → Option (List (String × Json))
  | [] => some stored
  | (key, tree) :: rest => do
    memberValues? depth (Assoc.insert (← key) (← value? depth tree) stored) rest

end

mutual

/-- The tree that says a value. -/
def ofValue : Json → ParseTree
  | .null => .null
  | .bool b => .bool b
  | .number n => .number (some n)
  | .string s => .string (some s)
  | .array items => .array (ofValues items)
  | .object members => .object (ofMemberValues members)

/-- The trees that say the items of an array. -/
def ofValues : List Json → List ParseTree
  | [] => []
  | item :: rest => ofValue item :: ofValues rest

/-- The trees that say the members of an object. -/
def ofMemberValues : List (String × Json) → List (Option String × ParseTree)
  | [] => []
  | (key, value) :: rest => (some key, ofValue value) :: ofMemberValues rest

end

mutual

/-- The number of containers around each other at the deepest place of a value. -/
def depthOf : Json → Nat
  | .array items => depthOfItems items + 1
  | .object members => depthOfMembers members + 1
  | _ => 0

/-- The greatest depth among the items of an array. -/
def depthOfItems : List Json → Nat
  | [] => 0
  | item :: rest => max (depthOf item) (depthOfItems rest)

/-- The greatest depth among the members of an object. -/
def depthOfMembers : List (String × Json) → Nat
  | [] => 0
  | (_, value) :: rest => max (depthOf value) (depthOfMembers rest)

end

/-! ### Numbers -/

/-- The value of a digit character. -/
def digitValue? (c : Char) : Option Nat :=
  if '0' ≤ c ∧ c ≤ '9' then some (c.toNat - '0'.toNat) else none

/-- How far a number has been read. -/
inductive NumberStage where
  | sign
  | zero
  | whole
  | point
  | fraction
  | mark
  | markSign
  | exponent
deriving DecidableEq

/-- A number being read; digits stand latest first. -/
structure NumberScan where
  stage : NumberStage
  negative : Bool
  whole : List Nat
  fraction : List Nat
  exponentNegative : Bool
  exponent : Nat

namespace NumberScan

/-- A number whose first character is read, if the character can start one. -/
def start? (c : Char) : Option NumberScan :=
  if c = '-' then some ⟨.sign, true, [], [], false, 0⟩
  else
    match digitValue? c with
    | some 0 => some ⟨.zero, false, [0], [], false, 0⟩
    | some d => some ⟨.whole, false, [d], [], false, 0⟩
    | none => none

/-- Takes a digit, if the stage allows one. -/
def digit? (n : NumberScan) (d : Nat) : Option NumberScan :=
  match n.stage with
  | .sign => some { n with stage := if d = 0 then .zero else .whole, whole := [d] }
  | .zero => none
  | .whole => some { n with whole := d :: n.whole }
  | .point | .fraction => some { n with stage := .fraction, fraction := d :: n.fraction }
  | .mark | .markSign | .exponent =>
    some { n with stage := .exponent, exponent := n.exponent * 10 + d }

/-- What a character does to a number being read. -/
inductive Step where
  /-- It belongs to the number. -/
  | more (n : NumberScan)
  /-- The number ended before it. -/
  | ended
  /-- It cannot stand here. -/
  | refused

/-- Takes a character. -/
def step (n : NumberScan) (c : Char) : Step :=
  match digitValue? c with
  | some d =>
    match n.digit? d with
    | some n => .more n
    | none => .refused
  | none =>
    match n.stage with
    | .zero | .whole =>
      if c = '.' then .more { n with stage := .point }
      else if c = 'e' || c = 'E' then .more { n with stage := .mark }
      else .ended
    | .fraction => if c = 'e' || c = 'E' then .more { n with stage := .mark } else .ended
    | .exponent => .ended
    | .mark =>
      if c = '+' then .more { n with stage := .markSign }
      else if c = '-' then .more { n with stage := .markSign, exponentNegative := true }
      else .refused
    | .sign | .point | .markSign => .refused

/-- Whether a number may end at this stage. -/
def complete (n : NumberScan) : Bool :=
  match n.stage with
  | .zero | .whole | .fraction | .exponent => true
  | .sign | .point | .mark | .markSign => false

/-- Appends digits to a number as long as it stays below `2 ^ 64`; the second result counts the
digits that were left over. -/
def absorb (n : Nat) : List Nat → Nat × Nat
  | [] => (n, 0)
  | d :: rest => if n * 10 + d < 0x10000000000000000 then absorb (n * 10 + d) rest else (n, rest.length + 1)

/-- A double with the sign of the number. -/
def signed (n : NumberScan) (m : Double.Magnitude) : Number := .double ⟨n.negative, m⟩

/-- The number that was read. Whole numbers of 64 bits are kept, except that the negative zero is
a double; of any other number the digits beyond `2 ^ 64` only count as places. -/
def value? (n : NumberScan) : Option Number :=
  let (digits, left) := absorb 0 n.whole.reverse
  if (n.stage = .zero ∨ n.stage = .whole) ∧ left = 0 then
    if !n.negative then some (.natural digits.toUInt64)
    else if h : 0 < digits ∧ digits ≤ 0x8000000000000000 then some (.negative ⟨digits - 1, by omega⟩)
    else (Double.nearest? digits 1).map n.signed
  else
    let (digits, unread) := absorb digits n.fraction.reverse
    let places : Int := (left : Int) - ((n.fraction.length : Int) - (unread : Int))
    let power : Int := if n.exponentNegative then -(n.exponent : Int) else n.exponent
    (Double.ofDecimal? digits (places + power)).map n.signed

end NumberScan

/-! ### Strings -/

/-- How far an escape has been read. -/
inductive EscapeStage where
  | plain
  | backslash
  /-- After `\u` and some of its four digits. -/
  | hex (count : Nat) (unit : Nat)

/-- A string being read; its characters stand latest first. -/
structure TextScan where
  content : List Char
  /-- Whether everything so far is Unicode text. -/
  sound : Bool
  /-- The first half of a surrogate pair, when it was just read. -/
  lead : Option Nat
  stage : EscapeStage

namespace TextScan

/-- A string of which the opening quote is read. -/
def start : TextScan := ⟨[], true, none, .plain⟩

/-- Appends a character; a lead before it stays without its partner. -/
def push (t : TextScan) (c : Char) : TextScan :=
  { content := c :: t.content, sound := t.sound && t.lead.isNone, lead := none, stage := .plain }

/-- Notes that the string is no Unicode text. -/
def spoil (t : TextScan) : TextScan := { t with sound := false, lead := none, stage := .plain }

/-- Appends the UTF-16 unit of an escape. -/
def pushUnit (t : TextScan) (unit : Nat) : TextScan :=
  let isLead := 0xD800 ≤ unit && unit < 0xDC00
  let isTrail := 0xDC00 ≤ unit && unit < 0xE000
  match t.lead with
  | some lead =>
    if isTrail then
      { t with
        content := Char.ofNat (0x10000 + (lead - 0xD800) * 0x400 + (unit - 0xDC00)) :: t.content
        lead := none, stage := .plain }
    else t.spoil
  | none =>
    if isLead then { t with lead := some unit, stage := .plain }
    else if isTrail then t.spoil
    else t.push (Char.ofNat unit)

/-- The character that a one-letter escape stands for. -/
def escaped? (c : Char) : Option Char :=
  if c = '"' || c = '\\' || c = '/' then some c
  else if c = 'b' then some '\x08'
  else if c = 'f' then some '\x0c'
  else if c = 'n' then some '\n'
  else if c = 'r' then some '\r'
  else if c = 't' then some '\t'
  else none

/-- The value of a hexadecimal digit. -/
def hexValue? (c : Char) : Option Nat :=
  if '0' ≤ c ∧ c ≤ '9' then some (c.toNat - '0'.toNat)
  else if 'a' ≤ c ∧ c ≤ 'f' then some (c.toNat - 'a'.toNat + 10)
  else if 'A' ≤ c ∧ c ≤ 'F' then some (c.toNat - 'A'.toNat + 10)
  else none

/-- What a character does to a string being read. -/
inductive Step where
  /-- It belongs to the string. -/
  | more (t : TextScan)
  /-- It ends the string, which is this text unless it was spoiled. -/
  | closed (s : Option String)
  /-- It cannot stand here. -/
  | refused

/-- Takes a character, or bytes that are none. -/
def step (t : TextScan) (c : Option Char) : Step :=
  match t.stage, c with
  | .plain, none => .more t.spoil
  | .plain, some c =>
    if c = '"' then
      .closed (if t.sound && t.lead.isNone then some (String.ofList t.content.reverse) else none)
    else if c = '\\' then .more { t with stage := .backslash }
    else if c.toNat < 0x20 then .refused
    else .more (t.push c)
  | .backslash, some c =>
    if c = 'u' then .more { t with stage := .hex 0 0 }
    else
      match escaped? c with
      | some c => .more (t.push c)
      | none => .refused
  | .hex count unit, some c =>
    match hexValue? c with
    | some d =>
      let unit := unit * 16 + d
      if count = 3 then .more (t.pushUnit unit) else .more { t with stage := .hex (count + 1) unit }
    | none => .refused
  | _, none => .refused

end TextScan

/-! ### The machine -/

/-- A container that is still open; what it holds so far stands latest first. -/
inductive Frame where
  | array (items : List ParseTree)
  /-- With the key whose value is being read, if a key was read. -/
  | object (members : List (Option String × ParseTree)) (key : Option String)

/-- What may come next. -/
inductive Phase where
  /-- A value. -/
  | value
  /-- A value, or the end of an array just opened. -/
  | firstItem
  /-- A key, or the end of an object just opened. -/
  | firstKey
  /-- A key. -/
  | key
  /-- The colon after a key. -/
  | colon
  /-- A comma, or the end of the innermost container. -/
  | next
  /-- The rest of a word, which says a tree. -/
  | word (rest : List Char) (tree : ParseTree)
  /-- The rest of a number. -/
  | number (n : NumberScan)
  /-- The rest of a string, which is a key or a value. -/
  | text (isKey : Bool) (t : TextScan)
  /-- Nothing but white space after the whole value. -/
  | done (tree : ParseTree)

/-- The machine: what may come next, and the open containers, innermost first. -/
structure Machine where
  phase : Phase
  frames : List Frame

namespace Machine

/-- The machine before the first character. -/
def start : Machine := ⟨.value, []⟩

/-- Puts a finished tree into the innermost container. -/
def give (frames : List Frame) (tree : ParseTree) : Machine :=
  match frames with
  | [] => ⟨.done tree, []⟩
  | .array items :: outer => ⟨.next, .array (tree :: items) :: outer⟩
  | .object members key :: outer => ⟨.next, .object ((key, tree) :: members) none :: outer⟩

/-- The white space of JSON. -/
def isSpace (c : Char) : Bool := c = ' ' || c = '\n' || c = '\t' || c = '\r'

/-- Takes the first character of a value. -/
def beginValue? (frames : List Frame) (c : Char) : Option Machine :=
  if c = '[' then some ⟨.firstItem, .array [] :: frames⟩
  else if c = '{' then some ⟨.firstKey, .object [] none :: frames⟩
  else if c = '"' then some ⟨.text false .start, frames⟩
  else if c = 'n' then some ⟨.word ['u', 'l', 'l'] .null, frames⟩
  else if c = 't' then some ⟨.word ['r', 'u', 'e'] (.bool true), frames⟩
  else if c = 'f' then some ⟨.word ['a', 'l', 's', 'e'] (.bool false), frames⟩
  else (NumberScan.start? c).map fun n => ⟨.number n, frames⟩

/-- Takes a character after a finished value. -/
def afterValue? (frames : List Frame) (c : Char) : Option Machine :=
  match frames with
  | .array items :: outer =>
    if c = ',' then some ⟨.value, frames⟩
    else if c = ']' then some (give outer (.array items.reverse))
    else none
  | .object members _ :: outer =>
    if c = ',' then some ⟨.key, frames⟩
    else if c = '}' then some (give outer (.object members.reverse))
    else none
  | [] => none

/-- Takes a character that belongs to no word, number or string. -/
def between? (m : Machine) (c : Char) : Option Machine :=
  if isSpace c then some m
  else
    match m.phase with
    | .value => beginValue? m.frames c
    | .firstItem =>
      if c = ']' then afterValue? m.frames c else beginValue? m.frames c
    | .firstKey =>
      if c = '}' then afterValue? m.frames c
      else if c = '"' then some ⟨.text true .start, m.frames⟩ else none
    | .key => if c = '"' then some ⟨.text true .start, m.frames⟩ else none
    | .colon => if c = ':' then some ⟨.value, m.frames⟩ else none
    | .next => afterValue? m.frames c
    | _ => none

/-- Hands a finished string on, as the key of the innermost object or as a value. -/
def giveText (isKey : Bool) (frames : List Frame) (s : Option String) : Machine :=
  if isKey then
    match frames with
    | .object members _ :: outer => ⟨.colon, .object members s :: outer⟩
    | _ => ⟨.colon, frames⟩
  else give frames (.string s)

/-- Takes a character, or bytes that are none. -/
def step (m : Machine) (c : Option Char) : Option Machine :=
  match m.phase, c with
  | .text isKey t, _ =>
    match t.step c with
    | .more t => some ⟨.text isKey t, m.frames⟩
    | .closed s => some (giveText isKey m.frames s)
    | .refused => none
  | _, none => none
  | .word rest tree, some c =>
    match rest with
    | [] => none
    | [last] => if c = last then some (give m.frames tree) else none
    | head :: rest => if c = head then some ⟨.word rest tree, m.frames⟩ else none
  | .number n, some c =>
    match n.step c with
    | .more n => some ⟨.number n, m.frames⟩
    | .ended => (give m.frames (.number n.value?)).between? c
    | .refused => none
  | _, some c => m.between? c

/-- The whole value, when the text ends here. -/
def finish? (m : Machine) : Option ParseTree :=
  match m.phase, m.frames with
  | .done tree, _ => some tree
  | .number n, [] => if n.complete then some (.number n.value?) else none
  | _, _ => none

end Machine

/-- Reads a text; bytes that are no character stand as `none`. -/
def readChars? (cs : List (Option Char)) : Option ParseTree := do
  (← cs.foldlM Machine.step Machine.start).finish?

/-- Reads a text. -/
def read? (s : String) : Option ParseTree := readChars? (s.toList.map some)

end ParseTree

/-- The number of containers that may stand around each other in a text that is read. -/
def Json.depthLimit : Nat := 127

/-- The value that a text says. -/
def Json.read? (s : String) : Option Json := do (← ParseTree.read? s).value? Json.depthLimit

end SilentAuth
