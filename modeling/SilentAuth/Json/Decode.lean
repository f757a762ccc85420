import SilentAuth.Json.Reader
import SilentAuth.Text.Utf8

/-!
# Reading records out of parse trees

A record names the fields it recognizes. A recognized field may occur once; what happens to the
others is up to the record: an open record keeps them as JSON members, a closed one skips them
unread. A closed record may also be written as an array of its fields in declaration order.

Main statement: the value of a tree is canonical, so kept members are too.
-/

namespace SilentAuth

namespace ParseTree

/-! ### Values of trees are canonical -/

mutual

/-- A value that is read has its members in order at every depth. -/
theorem canonical_of_value? :
    ∀ {depth : Nat} {tree : ParseTree} {v : Json}, tree.value? depth = some v → v.Canonical
  | _, .null, _, h => by
    simp only [value?, Option.some.injEq] at h
    exact h ▸ .null
  | _, .bool _, _, h => by
    simp only [value?, Option.some.injEq] at h
    exact h ▸ .bool _
  | _, .number _, _, h => by
    simp only [value?, Option.map_eq_some_iff] at h
    obtain ⟨n, _, rfl⟩ := h
    exact .number n
  | _, .string _, _, h => by
    simp only [value?, Option.map_eq_some_iff] at h
    obtain ⟨s, _, rfl⟩ := h
    exact .string s
  | depth, .array items, _, h => by
    rw [value?] at h
    split at h
    · cases h
    · obtain ⟨vs, hvs, rfl⟩ := Option.map_eq_some_iff.1 h
      exact .array (canonical_of_values? hvs)
  | depth, .object members, _, h => by
    rw [value?] at h
    split at h
    · cases h
    · obtain ⟨ms, hms, rfl⟩ := Option.map_eq_some_iff.1 h
      exact canonical_of_memberValues? (.object Assoc.ascending_nil (by simp)) hms

/-- So have the items of a list that is read. -/
theorem canonical_of_values? :
    ∀ {depth : Nat} {items : List ParseTree} {vs : List Json},
      values? depth items = some vs → ∀ v ∈ vs, v.Canonical
  | _, [], _, h => by
    simp only [values?, Option.some.injEq] at h
    subst h
    simp
  | depth, item :: rest, _, h => by
    simp only [values?, Option.bind_eq_bind, Option.bind_eq_some_iff, Option.pure_def,
      Option.some.injEq] at h
    obtain ⟨v, hv, vs, hvs, rfl⟩ := h
    intro w hw
    rcases List.mem_cons.1 hw with rfl | hw
    · exact canonical_of_value? hv
    · exact canonical_of_values? hvs w hw

/-- So have the members of an object that is read, in which a later one replaces an earlier one of
the same name. -/
theorem canonical_of_memberValues? :
    ∀ {depth : Nat} {members : List (Option String × ParseTree)}
      {stored ms : List (String × Json)}, Json.Canonical (.object stored) →
      memberValues? depth stored members = some ms → Json.Canonical (.object ms)
  | _, [], _, _, hs, h => by
    simp only [memberValues?, Option.some.injEq] at h
    exact h ▸ hs
  | depth, (key, tree) :: rest, _, _, hs, h => by
    simp only [memberValues?, Option.bind_eq_bind, Option.bind_eq_some_iff] at h
    obtain ⟨k, _, v, hv, hrest⟩ := h
    exact canonical_of_memberValues? (hs.insert k (canonical_of_value? hv)) hrest

end

/-! ### Scalars, options and lists -/

/-- The text a tree says. -/
def text? : ParseTree → Option String
  | .string s => s
  | _ => none

/-- The unsigned whole number a tree says. -/
def natural? : ParseTree → Option UInt64
  | .number (some (.natural n)) => some n
  | _ => none

/-- What a tree says, where null says that there is nothing. -/
def option? {α : Type} (read? : ParseTree → Option α) : ParseTree → Option (Option α)
  | .null => some none
  | tree => (read? tree).map some

/-- The items of an array. -/
def list? {α : Type} (depth : Nat) (read? : Nat → ParseTree → Option α) :
    ParseTree → Option (List α)
  | .array items => if depth = 0 then none else items.mapM (read? (depth - 1))
  | _ => none

/-- The members of an object in the order of the text, if all keys are Unicode text. -/
def members? (depth : Nat) : ParseTree → Option (List (String × ParseTree))
  | .object members =>
    if depth = 0 then none else members.mapM fun m => m.1.map fun key => (key, m.2)
  | _ => none

/-- A dictionary of records; of two members with one key the later one counts. -/
def dict? {α : Type} (depth : Nat) (read? : Nat → ParseTree → Option α) (tree : ParseTree) :
    Option (Dict α) := do
  let members ← tree.members? depth
  return Dict.ofList (← members.mapM fun m => (read? (depth - 1) m.2).map fun v => (m.1, v))

/-- The name that a tree gives for one of several cases: a string, or an object whose only member
has that name and the value null. -/
def caseName? (depth : Nat) : ParseTree → Option String
  | .string s => s
  | .object [(key, .null)] => if depth = 0 then none else key
  | _ => none

end ParseTree

/-! ### Fields of a record -/

/-- The members from which the fields of a record are read, in the order of the text. -/
abbrev Fields := List (String × ParseTree)

namespace Fields

/-- The one occurrence of a field, or that it is absent; nothing where it is repeated. -/
def single? (fields : Fields) (name : String) : Option (Option ParseTree) :=
  match fields.filter fun f => f.1 == name with
  | [] => some none
  | [f] => some (some f.2)
  | _ => none

/-- A field that has to be there. -/
def required? {α : Type} (fields : Fields) (name : String) (read? : ParseTree → Option α) :
    Option α := do
  (← fields.single? name).elim none read?

/-- A field that stands for a default where it is absent. -/
def defaulted? {α : Type} (fields : Fields) (name : String) (default : α)
    (read? : ParseTree → Option α) : Option α := do
  (← fields.single? name).elim (some default) read?

/-- A field that may be absent or null. -/
def optional? {α : Type} (fields : Fields) (name : String) (read? : ParseTree → Option α) :
    Option (Option α) :=
  fields.defaulted? name none (ParseTree.option? read?)

/-- The fields that an open record does not recognize, as JSON members. -/
def others? (fields : Fields) (depth : Nat) (recognized : List String) : Option Json.Members :=
  match h : ParseTree.memberValues? depth []
      ((fields.filter fun f => !recognized.contains f.1).map fun f => (some f.1, f.2)) with
  | some members => some ⟨members, ParseTree.canonical_of_memberValues?
      (.object Assoc.ascending_nil (by simp)) h⟩
  | none => none

end Fields

/-- The names of the fields of a closed record in declaration order, and how many of them an array
has to give at least. -/
structure ClosedShape where
  names : List String
  least : Nat

/-- The fields of a closed record, from an object or from an array. -/
def ClosedShape.fields? (shape : ClosedShape) (depth : Nat) : ParseTree → Option Fields
  | .array items =>
    if 0 < depth ∧ shape.least ≤ items.length ∧ items.length ≤ shape.names.length then
      some (shape.names.zip items)
    else none
  | tree => tree.members? depth

/-- Reads a record from bytes that are JSON text in UTF-8. -/
def readBytes? {α : Type} (ofTree? : Nat → ParseTree → Option α) (bytes : List UInt8) :
    Option α := do
  ofTree? Json.depthLimit (← ParseTree.readChars? (Utf8.decode bytes))

end SilentAuth
