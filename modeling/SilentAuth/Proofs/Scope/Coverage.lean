import Mathlib.Data.Finset.Basic
import SilentAuth.Proofs.Text.Words

/-!
# What scope sets cover

A scope set keeps names as they were written, so it may hold one scope in several spellings, and
the reserved ones in spellings of its own. Which sets it covers and which it meets depends on its
folded names alone: covering is inclusion of these, meeting is having one in common, and the reserved
names are taken away or added like any finite set. So the laws of finite sets hold for coverage, up
to case.

* `foldedNames`, `Scopes.folded`: the names of a list or a set, without their case.
* `Scopes.containsAll_iff_subset`, `Scopes.intersects_iff_not_disjoint`: coverage and meeting.
* `Scopes.folded_withoutReserved`, `Scopes.folded_withReserved`: the reserved names.
* `Scopes.coverage_laws`: the laws that matching and replacing of access tokens rest on.
-/

namespace SilentAuth

/-- The names of a list in lower case, without order or repetitions. -/
def foldedNames (names : List String) : Finset String := (names.map foldCase).toFinset

/-- A folded name is that of one of the names. -/
theorem mem_foldedNames {names : List String} {folded : String} :
    folded ∈ foldedNames names ↔ ∃ name ∈ names, foldCase name = folded := by
  rw [foldedNames, List.mem_toFinset, List.mem_map]

/-- A name is listed up to case exactly if its folded form is among the folded names. -/
theorem listed_iff_mem_foldedNames {name : String} {names : List String} :
    listed name names = true ↔ foldCase name ∈ foldedNames names := by
  rw [listed_iff, mem_foldedNames]

namespace Scopes

/-- The names of a set in lower case. Sets are equal up to case if these are equal. -/
def folded (s : Scopes) : Finset String := foldedNames s.names

variable {r s t : Scopes}

/-! ### Coverage and meeting by folded names -/

/-- A folded name of a scope set is that of one of its names. -/
theorem mem_folded {folded : String} :
    folded ∈ s.folded ↔ ∃ name ∈ s.names, foldCase name = folded :=
  mem_foldedNames

/-- A set covers another one exactly if it has its folded names. -/
theorem containsAll_iff_subset : s.containsAll t = true ↔ t.folded ⊆ s.folded := by
  rw [containsAll_iff]
  constructor
  · intro hcovers folded hfolded
    obtain ⟨name, hname, rfl⟩ := mem_folded.1 hfolded
    exact listed_iff_mem_foldedNames.1 (hcovers name hname)
  · intro hsubset name hname
    exact listed_iff_mem_foldedNames.2 (hsubset (mem_folded.2 ⟨name, hname, rfl⟩))

/-- Two sets meet exactly if they have a folded name in common. -/
theorem intersects_iff_not_disjoint : s.intersects t = true ↔ ¬ Disjoint s.folded t.folded := by
  rw [intersects_iff, Finset.not_disjoint_iff]
  constructor
  · rintro ⟨name, hname, hlisted⟩
    exact ⟨foldCase name, listed_iff_mem_foldedNames.1 hlisted, mem_folded.2 ⟨name, hname, rfl⟩⟩
  · rintro ⟨folded, hs, ht⟩
    obtain ⟨name, hname, rfl⟩ := mem_folded.1 ht
    exact ⟨name, hname, listed_iff_mem_foldedNames.2 hs⟩

/-- Sets that list one name, each in a spelling of its own, meet. -/
theorem intersects_of_listed {name : String} (hs : listed name s.names = true)
    (ht : listed name t.names = true) : s.intersects t = true := by
  rw [intersects_iff_not_disjoint, Finset.not_disjoint_iff]
  exact ⟨foldCase name, listed_iff_mem_foldedNames.1 hs, listed_iff_mem_foldedNames.1 ht⟩

/-- A scope set that is not empty has a name. -/
theorem exists_mem_names (h : s.isEmpty = false) : ∃ name, name ∈ s.names := by
  apply List.exists_mem_of_ne_nil
  intro hnil
  rw [isEmpty, Dict.isEmpty, List.map_eq_nil_iff.1 hnil] at h
  cases h

/-! ### Laws of coverage -/

theorem containsAll_refl (s : Scopes) : s.containsAll s = true :=
  containsAll_iff_subset.2 (Finset.Subset.refl _)

/-- A scope set contains all that is contained in a set that it contains. -/
theorem containsAll_trans (h : r.containsAll s = true) (h' : s.containsAll t = true) :
    r.containsAll t = true :=
  containsAll_iff_subset.2
    ((containsAll_iff_subset.1 h').trans (containsAll_iff_subset.1 h))

/-- Sets that cover each other are equal up to case. -/
theorem containsAll_antisymm (h : s.containsAll t = true) (h' : t.containsAll s = true) :
    s.folded = t.folded :=
  Finset.Subset.antisymm (containsAll_iff_subset.1 h') (containsAll_iff_subset.1 h)

/-- Coverage does not change with the spelling of either set. -/
theorem containsAll_congr {s' t' : Scopes} (hs : s.folded = s'.folded) (ht : t.folded = t'.folded) :
    s.containsAll t = s'.containsAll t' := by
  rw [Bool.eq_iff_iff, containsAll_iff_subset, containsAll_iff_subset, hs, ht]

/-- The sets meet no matter which of them is asked. -/
theorem intersects_comm (s t : Scopes) : s.intersects t = t.intersects s := by
  rw [Bool.eq_iff_iff, intersects_iff_not_disjoint, intersects_iff_not_disjoint, disjoint_comm]

/-- A set meets what it covers, unless that is nothing. -/
theorem intersects_of_containsAll (h : s.containsAll t = true) (hne : t.isEmpty = false) :
    s.intersects t = true := by
  obtain ⟨name, hname⟩ := exists_mem_names hne
  exact intersects_of_listed (containsAll_iff.1 h name hname) (listed_iff.2 ⟨name, hname, rfl⟩)

/-! ### The reserved names -/

/-- The reserved scopes are reserved. -/
theorem isReserved_of_mem {name : String} (h : name ∈ reservedScopes) : isReserved name = true :=
  listed_iff.2 ⟨name, h, rfl⟩

/-- Without reserved names a set has its other folded names, whatever the spelling of those taken
away. -/
theorem folded_withoutReserved (s : Scopes) :
    s.withoutReserved.folded = s.folded \ foldedNames reservedScopes := by
  have hkept {name : String} :
      isReserved name = false ↔ foldCase name ∉ foldedNames reservedScopes := by
    rw [← listed_iff_mem_foldedNames, Bool.not_eq_true, isReserved]
  ext folded
  rw [Finset.mem_sdiff, mem_folded, mem_folded]
  constructor
  · rintro ⟨name, hname, rfl⟩
    obtain ⟨hmem, hreserved⟩ := mem_names_withoutReserved.1 hname
    exact ⟨⟨name, hmem, rfl⟩, hkept.1 hreserved⟩
  · rintro ⟨⟨name, hname, rfl⟩, hfolded⟩
    exact ⟨name, mem_names_withoutReserved.2 ⟨hname, hkept.2 hfolded⟩, rfl⟩

/-- With the reserved scopes, a set has these and its own names. -/
theorem mem_names_withReserved {name : String} :
    name ∈ s.withReserved.names ↔ name ∈ reservedScopes ∨ name ∈ s.names :=
  mem_names_insertAll

/-- With all reserved names a set has its folded names and theirs. -/
theorem folded_withReserved (s : Scopes) :
    s.withReserved.folded = foldedNames reservedScopes ∪ s.folded := by
  ext folded
  rw [Finset.mem_union, mem_folded, mem_folded, mem_foldedNames]
  simp only [mem_names_withReserved, or_and_right, exists_or]

/-- Taking away the reserved names again changes nothing. -/
theorem withoutReserved_withoutReserved (s : Scopes) :
    s.withoutReserved.withoutReserved = s.withoutReserved := by
  apply ext_names
  intro name
  rw [mem_names_withoutReserved, mem_names_withoutReserved, and_assoc, and_self]

/-- The reserved names that were added are taken away with those that were there. -/
theorem withoutReserved_withReserved (s : Scopes) :
    s.withReserved.withoutReserved = s.withoutReserved := by
  apply ext_names
  intro name
  rw [mem_names_withoutReserved, mem_names_withoutReserved, mem_names_withReserved]
  constructor
  · rintro ⟨hadded | hname, hreserved⟩
    · rw [isReserved_of_mem hadded] at hreserved
      cases hreserved
    · exact ⟨hname, hreserved⟩
  · rintro ⟨hname, hreserved⟩
    exact ⟨.inr hname, hreserved⟩

/-- It is the same to ask for no reserved names and to be granted all of them. -/
theorem containsAll_withoutReserved_iff :
    s.containsAll t.withoutReserved = true ↔ s.withReserved.containsAll t = true := by
  calc s.containsAll t.withoutReserved = true
      ↔ t.folded \ foldedNames reservedScopes ⊆ s.folded := by
        rw [containsAll_iff_subset, folded_withoutReserved]
    _ ↔ t.folded ⊆ foldedNames reservedScopes ∪ s.folded := sdiff_le_iff
    _ ↔ s.withReserved.containsAll t = true := by
        rw [containsAll_iff_subset, folded_withReserved]

/-! ### The laws together -/

/-- **Scope coverage.** Coverage is reflexive and transitive, sets that cover each other are equal up
to case, and replacing either side by a set equal up to case does not change it. Sets meet no matter
which of them is asked, and a set meets whatever it covers that is not empty. Taking the reserved
names away a second time changes nothing, nor does adding them before they are taken away; and taking
them from what is asked for is as good as adding them to what is granted. -/
theorem coverage_laws (a b c a' b' : Scopes) :
    a.containsAll a = true ∧
      (a.containsAll b = true → b.containsAll c = true → a.containsAll c = true) ∧
      (a.containsAll b = true → b.containsAll a = true → a.folded = b.folded) ∧
      (a.folded = a'.folded → b.folded = b'.folded → a.containsAll b = a'.containsAll b') ∧
      a.intersects b = b.intersects a ∧
      (a.containsAll b = true → b.isEmpty = false → a.intersects b = true) ∧
      a.withoutReserved.withoutReserved = a.withoutReserved ∧
      a.withReserved.withoutReserved = a.withoutReserved ∧
      (a.containsAll b.withoutReserved = true ↔ a.withReserved.containsAll b = true) :=
  ⟨containsAll_refl a, containsAll_trans, containsAll_antisymm, containsAll_congr,
    intersects_comm a b, intersects_of_containsAll, withoutReserved_withoutReserved a,
    withoutReserved_withReserved a, containsAll_withoutReserved_iff⟩

/-- Two sets that hold the same scopes, one of them reserved, in different spellings: they cover each
other and what the other one covers, they meet, and so they do in two further spellings. -/
theorem coverage_laws_respelled :
    let a := ofText "Mail.Read mail.read OpenID"
    let b := ofText "MAIL.READ openid"
    let c := ofText "mail.READ"
    let a' := ofText "openid Mail.READ"
    let b' := ofText "OPENID MAIL.read mail.read"
    (a.containsAll b = true ∧ b.containsAll a = true ∧ b.containsAll c = true ∧
      a.folded = a'.folded ∧ b.folded = b'.folded ∧ b.isEmpty = false) ∧
      a.containsAll c = true ∧ a.folded = b.folded ∧ a.containsAll b = a'.containsAll b' ∧
      a.intersects b = true := by
  intro a b c a' b'
  have hab : a.containsAll b = true := by decide +kernel
  have hba : b.containsAll a = true := by decide +kernel
  have hbc : b.containsAll c = true := by decide +kernel
  have ha : a.folded = a'.folded := by decide +kernel
  have hb : b.folded = b'.folded := by decide +kernel
  have hne : b.isEmpty = false := by decide +kernel
  obtain ⟨_, htrans, hantisymm, hcongr, _, hmeets, _⟩ := coverage_laws a b c a' b'
  exact ⟨⟨hab, hba, hbc, ha, hb, hne⟩, htrans hab hbc, hantisymm hab hba, hcongr ha hb,
    hmeets hab hne⟩

end Scopes

end SilentAuth
