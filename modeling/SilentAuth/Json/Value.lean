import SilentAuth.Dict
import SilentAuth.Json.Double

/-!
# JSON values and their compact text

A number is a whole number of 64 bits, signed or unsigned, or a double; the members of an object
ascend by key. `Json.Canonical` says the latter at every depth, and `Json.Members` is a canonical
list of members. The text of a value has no spaces, and escapes only what JSON requires.
-/

namespace SilentAuth

/-! ### Values -/

/-- A JSON number that was read or is to be written. -/
inductive Number where
  /-- A whole number that is not negative. -/
  | natural (n : UInt64)
  /-- The number `-(n + 1)`. -/
  | negative (n : Fin 0x8000000000000000)
  /-- A number with a fraction or an exponent, or one outside the ranges above. -/
  | double (d : Double)
deriving DecidableEq

/-- A JSON value. -/
inductive Json where
  | null
  | bool (b : Bool)
  | number (n : Number)
  | string (s : String)
  | array (items : List Json)
  | object (members : List (String × Json))

namespace Json

instance : Inhabited Json := ⟨.null⟩

/-- The members of every object in the value ascend strictly by key. -/
inductive Canonical : Json → Prop where
  | null : Canonical .null
  | bool (b : Bool) : Canonical (.bool b)
  | number (n : Number) : Canonical (.number n)
  | string (s : String) : Canonical (.string s)
  | array {items : List Json} (h : ∀ item ∈ items, Canonical item) : Canonical (.array items)
  | object {members : List (String × Json)} (ascending : Assoc.Ascending members)
      (h : ∀ member ∈ members, Canonical member.2) : Canonical (.object members)

/-- A whole number as a value. -/
def ofUInt64 (n : UInt64) : Json := .number (.natural n)

/-- A text as a value, or null where there is none. -/
def ofText? (s : Option String) : Json := s.elim .null .string

/-- The value of a member of an object. -/
def member? (key : String) : Json → Option Json
  | .object members => Assoc.find? key members
  | _ => none

/-- The text of a string value. -/
def text? : Json → Option String
  | .string s => some s
  | _ => none

/-- A member with an optional value, left out where there is none. -/
def memberIfSome {α : Type} (name : String) (toJson : α → Json) (value : Option α) :
    List (String × Json) :=
  match value with
  | some v => [(name, toJson v)]
  | none => []

/-- Objects with these members, sorted; of two members with one key the later one counts. -/
def ofMembers (members : List (String × Json)) : Json :=
  .object (members.foldl (fun sorted m => Assoc.insert m.1 m.2 sorted) [])

/-! ### Text -/

/-- The hexadecimal digits of a number below 256, lower case, two of them. -/
def hexByte (n : Nat) : List Char := [Nat.digitChar (n / 16), Nat.digitChar (n % 16)]

/-- How a character stands inside a string. -/
def escapeChar (c : Char) : List Char :=
  if c = '"' then ['\\', '"']
  else if c = '\\' then ['\\', '\\']
  else if 0x20 ≤ c.toNat then [c]
  else if c = '\x08' then ['\\', 'b']
  else if c = '\t' then ['\\', 't']
  else if c = '\n' then ['\\', 'n']
  else if c = '\x0c' then ['\\', 'f']
  else if c = '\r' then ['\\', 'r']
  else '\\' :: 'u' :: '0' :: '0' :: hexByte c.toNat

/-- A string between quotes. -/
def writeString (s : String) : List Char := '"' :: s.toList.flatMap escapeChar ++ ['"']

end Json

/-- The text of a number. -/
def Number.write : Number → List Char
  | .natural n => Nat.toDigits 10 n.toNat
  | .negative n => '-' :: Nat.toDigits 10 (n.val + 1)
  | .double d => d.text

namespace Json

mutual

/-- The compact text of a value. -/
def write : Json → List Char
  | .null => ['n', 'u', 'l', 'l']
  | .bool true => ['t', 'r', 'u', 'e']
  | .bool false => ['f', 'a', 'l', 's', 'e']
  | .number n => n.write
  | .string s => writeString s
  | .array items => '[' :: writeItems items ++ [']']
  | .object members => '{' :: writeMembers members ++ ['}']

/-- The items of an array, with commas between them. -/
def writeItems : List Json → List Char
  | [] => []
  | [item] => write item
  | item :: next :: rest => write item ++ ',' :: writeItems (next :: rest)

/-- The members of an object, with commas between them. -/
def writeMembers : List (String × Json) → List Char
  | [] => []
  | [(key, value)] => writeString key ++ ':' :: write value
  | (key, value) :: next :: rest =>
    writeString key ++ ':' :: write value ++ ',' :: writeMembers (next :: rest)

end

/-- The compact text of a value, as a string. -/
def text (value : Json) : String := String.ofList (write value)

/-! ### Canonical members -/

/-- The members of a canonical object. -/
structure Members where
  /-- The members, in ascending order of their keys. -/
  entries : List (String × Json)
  /-- The keys ascend strictly, here and in every object inside. -/
  canonical : Canonical (.object entries)

namespace Members

/-- Members ascend by name. -/
theorem ascending (m : Members) : Assoc.Ascending m.entries := by
  obtain ⟨entries, h⟩ := m
  cases h
  assumption

/-- The values of members have their own members in order. -/
theorem canonical_of_mem (m : Members) : ∀ e ∈ m.entries, Canonical e.2 := by
  obtain ⟨entries, h⟩ := m
  cases h
  assumption

/-- No members. -/
def empty : Members := ⟨[], .object Assoc.ascending_nil (by simp)⟩

instance : Inhabited Members := ⟨empty⟩

/-- The value of a member. -/
def find? (m : Members) (key : String) : Option Json := Assoc.find? key m.entries

@[ext] theorem ext_entries {m₁ m₂ : Members} (h : m₁.entries = m₂.entries) : m₁ = m₂ := by
  cases m₁
  cases m₂
  cases h
  rfl

end Members

/-! ### Deep merge -/

/-- Members stay in order when one is inserted. -/
theorem Canonical.insert {members : List (String × Json)} (h : Canonical (.object members))
    (key : String) {value : Json} (hv : Canonical value) :
    Canonical (.object (Assoc.insert key value members)) := by
  cases h with
  | object ascending h =>
    refine .object (Assoc.ascending_insert ascending) ?_
    intro m hm
    rcases Assoc.mem_insert hm with rfl | hm
    · exact hv
    · exact h m hm

/-- A member of a value in order is in order. -/
theorem Canonical.of_find? {members : List (String × Json)} (h : Canonical (.object members))
    {key : String} {value : Json} (hf : Assoc.find? key members = some value) :
    Canonical value := by
  cases h with
  | object _ h => exact h _ (Assoc.mem_of_find?_eq_some hf)

mutual

/-- Joins a value with a newer one: two objects member by member, anything else by replacement. -/
def merge : Json → Json → Json
  | .object old, .object update => .object (mergeMembers old update)
  | _, update => update

/-- Stores newer members, each joined with the one it replaces. -/
def mergeMembers (old : List (String × Json)) : List (String × Json) → List (String × Json)
  | [] => old
  | (key, value) :: rest =>
    match Assoc.find? key old with
    | some present => mergeMembers (Assoc.insert key (merge present value) old) rest
    | none => mergeMembers (Assoc.insert key value old) rest

end

mutual

/-- Merging keeps values in order. -/
theorem canonical_merge :
    ∀ {old update : Json}, Canonical old → Canonical update → Canonical (merge old update)
  | .object _, .object _, hold, hupdate => by
    cases hupdate with
    | object _ h =>
      rw [merge]
      exact canonical_mergeMembers hold h
  | .object _, .null, _, h => by simpa [merge] using h
  | .object _, .bool _, _, h => by simpa [merge] using h
  | .object _, .number _, _, h => by simpa [merge] using h
  | .object _, .string _, _, h => by simpa [merge] using h
  | .object _, .array _, _, h => by simpa [merge] using h
  | .null, _, _, h => by simpa [merge] using h
  | .bool _, _, _, h => by simpa [merge] using h
  | .number _, _, _, h => by simpa [merge] using h
  | .string _, _, _, h => by simpa [merge] using h
  | .array _, _, _, h => by simpa [merge] using h

/-- Merging keeps members in order. -/
theorem canonical_mergeMembers :
    ∀ {old update : List (String × Json)}, Canonical (.object old) →
      (∀ m ∈ update, Canonical m.2) → Canonical (.object (mergeMembers old update))
  | _, [], hold, _ => by simpa [mergeMembers] using hold
  | old, (key, value) :: rest, hold, h => by
    have hvalue : Canonical value := h _ List.mem_cons_self
    have hrest : ∀ m ∈ rest, Canonical m.2 := fun m hm => h m (List.mem_cons_of_mem _ hm)
    rw [mergeMembers]
    split
    · rename_i present hpresent
      exact canonical_mergeMembers
        (hold.insert key (canonical_merge (hold.of_find? hpresent) hvalue)) hrest
    · exact canonical_mergeMembers (hold.insert key hvalue) hrest

end

namespace Members

/-- Stores newer members, each joined with the one it replaces, at every depth. -/
def merge (old update : Members) : Members :=
  ⟨mergeMembers old.entries update.entries,
    canonical_mergeMembers old.canonical update.canonical_of_mem⟩

end Members

end Json

end SilentAuth
