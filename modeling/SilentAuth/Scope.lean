import SilentAuth.Dict
import SilentAuth.Text.Blank
import SilentAuth.Text.Case

/-!
# Sets of scopes

A scope set is kept in the order of its names, so that its text, and every key made of it, depends
on the set alone. Sets hold names as written but are compared without regard to ASCII case.
-/

namespace SilentAuth

/-- The names this library adds to every request for a user's token. They never are part of what
a token grants, so matching leaves them out. -/
def reservedScopes : List String := ["openid", "profile", "offline_access"]

/-- A set of scopes. -/
structure Scopes where
  /-- The names, as keys. -/
  set : Dict Unit

namespace Scopes

/-- The set without scopes. -/
def empty : Scopes := ⟨Dict.empty⟩

instance : Inhabited Scopes := ⟨empty⟩

/-- The names of the scopes, in ascending order. -/
def names (s : Scopes) : List String := s.set.keys

/-- Whether there are no scopes. -/
def isEmpty (s : Scopes) : Bool := s.set.isEmpty

/-- Adds a name as it stands. -/
def insert (s : Scopes) (name : String) : Scopes := ⟨s.set.insert name ()⟩

/-- Adds names as they stand. -/
def insertAll (s : Scopes) (names : List String) : Scopes := names.foldl insert s

/-- The words of a text. -/
def ofText (text : String) : Scopes := empty.insertAll (words text)

/-- The names with single spaces between them. -/
def text (s : Scopes) : String := String.intercalate " " s.names

/-- Whether every name of `required` is in the set, up to case. -/
def containsAll (s required : Scopes) : Bool :=
  required.names.all fun name => listed name s.names

/-- Whether the sets share a name, up to case. -/
def intersects (s other : Scopes) : Bool := other.names.any fun name => listed name s.names

/-- Whether a name is a reserved one, up to case. -/
def isReserved (name : String) : Bool := listed name reservedScopes

/-- The set without its reserved names. -/
def withoutReserved (s : Scopes) : Scopes := ⟨s.set.filter fun name _ => !isReserved name⟩

/-- The set with all reserved names. -/
def withReserved (s : Scopes) : Scopes := s.insertAll reservedScopes

/-- A set contains all names that another one has, up to case. -/
theorem containsAll_iff {s required : Scopes} :
    s.containsAll required = true ↔ ∀ name ∈ required.names, listed name s.names = true := by
  simp [containsAll]

/-- Two sets intersect if they have a name in common, up to case. -/
theorem intersects_iff {s other : Scopes} :
    s.intersects other = true ↔ ∃ name ∈ other.names, listed name s.names = true := by
  simp [intersects]

/-- Without the reserved scopes, a set has its other names. -/
theorem mem_names_withoutReserved {s : Scopes} {name : String} :
    name ∈ s.withoutReserved.names ↔ name ∈ s.names ∧ isReserved name = false := by
  simp [withoutReserved, names, Dict.keys, Dict.filter]

end Scopes

end SilentAuth
