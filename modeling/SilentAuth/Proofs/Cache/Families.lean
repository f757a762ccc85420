import SilentAuth.Proofs.Cache.Selection

/-!
# Families of clients, and the refresh token of a client

What is known about an application may tell the family of clients that it belongs to. There may be
several such records for one application, and some of them may tell no family or a blank one; a family
is known if any of them tells one. A client that is known to belong to a family redeems a token of the
family first and its own if there is none; any other client does it the other way round, with a token of
whatever family.

* `Store.familyIdFor_eq_some`, `Store.familyIdFor_isSome_iff`: the family that is known.
* `Choice`: the result of looking for one property first, and for another one if nothing has it.
* `Store.selectRefreshToken_choice`: which refresh token is selected.
-/

namespace SilentAuth

/-- A text counts as present if it is there and not empty. -/
theorem CacheKey.nonEmpty?_eq_some_iff {s : Option String} {t : String} :
    nonEmpty? s = some t ↔ s = some t ∧ t ≠ "" := by
  rw [nonEmpty?, Option.filter_eq_some_iff, bne_iff_ne]

/-! ### Choices -/

/-- A choice among candidates: one with the first property if any has it, else one with the second
property, and nothing if no candidate has either. -/
inductive Choice {α : Type} (among first second : α → Prop) : Option α → Prop where
  | preferred {r : α} (candidate : among r) (has : first r) : Choice among first second (some r)
  | accepted {r : α} (candidate : among r) (has : second r) (unmet : ∀ c, among c → ¬first c) :
    Choice among first second (some r)
  | missing (unmet : ∀ c, among c → ¬first c ∧ ¬second c) : Choice among first second none

/-- Two searches, one after the other, make a choice. -/
theorem choice_find? {α : Type} (records : List α) (among first second : α → Bool) :
    Choice (fun r => r ∈ records ∧ among r = true) (fun r => first r = true)
      (fun r => second r = true)
      ((records.find? fun r => among r && first r).or
        (records.find? fun r => among r && second r)) := by
  have hfound {test : α → Bool} {r : α} (h : records.find? (fun r => among r && test r) = some r) :
      (r ∈ records ∧ among r = true) ∧ test r = true := by
    have hpasses := List.find?_some h
    rw [Bool.and_eq_true] at hpasses
    exact ⟨⟨List.mem_of_find?_eq_some h, hpasses.1⟩, hpasses.2⟩
  have hnone {test : α → Bool} (h : records.find? (fun r => among r && test r) = none) :
      ∀ c, c ∈ records ∧ among c = true → ¬test c = true := by
    rintro c ⟨hc, hamong⟩ htest
    exact List.find?_eq_none.1 h c hc (Bool.and_eq_true_iff.2 ⟨hamong, htest⟩)
  cases hfirst : records.find? fun r => among r && first r with
  | some r => exact .preferred (hfound hfirst).1 (hfound hfirst).2
  | none =>
    rw [Option.none_or]
    cases hsecond : records.find? fun r => among r && second r with
    | some r => exact .accepted (hfound hsecond).1 (hfound hsecond).2 (hnone hfirst)
    | none => exact .missing fun c hc => ⟨hnone hfirst c hc, hnone hsecond c hc⟩

/-! ### Families -/

namespace RefreshTokenRecord

variable {r : RefreshTokenRecord}

/-- The token belongs to a family of clients. -/
def OfAnyFamily (r : RefreshTokenRecord) : Prop :=
  ∃ family, r.familyId = some family ∧ family ≠ ""

/-- The token belongs to this family of clients. -/
def OfFamily (family : String) (r : RefreshTokenRecord) : Prop :=
  ∃ own, r.familyId = some own ∧ own ≠ "" ∧ sameText own family = true

/-- A refresh token has a family exactly if it is shared by one. -/
theorem family?_isSome_iff : r.family?.isSome = true ↔ r.OfAnyFamily := by
  rw [Option.isSome_iff_exists]
  exact exists_congr fun _ => CacheKey.nonEmpty?_eq_some_iff

/-- The test of a family for a name says that the token is of this family. -/
theorem family?_elim_iff {family : String} :
    r.family?.elim false (sameText · family) = true ↔ r.OfFamily family := by
  unfold OfFamily
  simp only [← and_assoc, ← CacheKey.nonEmpty?_eq_some_iff]
  show _ ↔ ∃ own, r.family? = some own ∧ _
  cases r.family? with
  | none => simp
  | some own => simp

end RefreshTokenRecord

namespace Store

variable {s : Store} {homeAccountId clientId : String} {aliases : List String}

/-- A record of what is known about a client at one of the hosts. -/
def Describes (s : Store) (clientId : String) (aliases : List String) (m : AppMetadataRecord) :
    Prop :=
  m ∈ s.appMetadata.values ∧ sameText m.clientId clientId = true ∧
    listed m.environment aliases = true

/-- A refresh token of an account at one of the hosts. -/
def Candidate (s : Store) (homeAccountId : String) (aliases : List String)
    (r : RefreshTokenRecord) : Prop :=
  r ∈ s.refreshTokens.values ∧ belongs homeAccountId aliases r.homeAccountId r.environment = true

/-- The records among which the family of a client is looked for. -/
theorem mem_filter_iff_describes {m : AppMetadataRecord} :
    m ∈ s.appMetadata.values.filter (fun r =>
        sameText r.clientId clientId && listed r.environment aliases) ↔
      s.Describes clientId aliases m := by
  rw [List.mem_filter, Bool.and_eq_true, Describes]

/-- The family that is known is told by one of the records about the client, and is not blank. -/
theorem familyIdFor_eq_some {family : String}
    (h : s.familyIdFor clientId aliases = some family) :
    ∃ m, s.Describes clientId aliases m ∧ m.familyId = some family ∧ family ≠ "" := by
  obtain ⟨m, hm, hfamily⟩ := List.exists_of_findSome?_eq_some h
  exact ⟨m, mem_filter_iff_describes.1 hm, CacheKey.nonEmpty?_eq_some_iff.1 hfamily⟩

/-- A family is known if any record about the client tells one, whatever the others tell. -/
theorem familyIdFor_isSome_iff :
    (s.familyIdFor clientId aliases).isSome = true ↔
      ∃ m, s.Describes clientId aliases m ∧ ∃ family, m.familyId = some family ∧ family ≠ "" := by
  constructor
  · intro h
    obtain ⟨family, hfamily⟩ := Option.isSome_iff_exists.1 h
    obtain ⟨m, hm, htells⟩ := familyIdFor_eq_some hfamily
    exact ⟨m, hm, family, htells⟩
  · rintro ⟨m, hm, family, htells⟩
    rw [familyIdFor, List.findSome?_isSome_iff]
    refine ⟨m, mem_filter_iff_describes.2 hm, ?_⟩
    rw [CacheKey.nonEmpty?_eq_some_iff.2 htells, Option.isSome_some]

/-- **Which refresh token is selected.** The candidates are the refresh tokens of the account under the
hosts. If a family of the client is known, the selected one is a candidate of this family, else one that
was issued to the client, else there is none; and if no family is known, it is one that was issued to the
client, else one of whatever family, else there is none. A family is known exactly if a record about
the client tells one that is not blank, and it is the family of such a record. -/
theorem selectRefreshToken_choice (s : Store) (homeAccountId clientId : String)
    (aliases : List String) :
    (match s.familyIdFor clientId aliases with
      | some family =>
        Choice (s.Candidate homeAccountId aliases) (RefreshTokenRecord.OfFamily family)
          (fun r => sameText r.clientId clientId = true)
          (s.selectRefreshToken homeAccountId clientId aliases)
      | none =>
        Choice (s.Candidate homeAccountId aliases)
          (fun r => sameText r.clientId clientId = true) RefreshTokenRecord.OfAnyFamily
          (s.selectRefreshToken homeAccountId clientId aliases)) ∧
    ((s.familyIdFor clientId aliases).isSome = true ↔
      ∃ m, s.Describes clientId aliases m ∧ ∃ family, m.familyId = some family ∧ family ≠ "") ∧
    ∀ family, s.familyIdFor clientId aliases = some family →
      ∃ m, s.Describes clientId aliases m ∧ m.familyId = some family ∧ family ≠ "" := by
  refine ⟨?_, familyIdFor_isSome_iff, fun _ => familyIdFor_eq_some⟩
  have hchoice := choice_find? s.refreshTokens.values
    (fun r => belongs homeAccountId aliases r.homeAccountId r.environment)
    (s.Prefers clientId aliases) (s.Accepts clientId aliases)
  rw [← selectRefreshToken_eq_or] at hchoice
  unfold Prefers Accepts at hchoice
  cases hfamily : s.familyIdFor clientId aliases with
  | some family =>
    simp only [hfamily, RefreshTokenRecord.family?_elim_iff] at hchoice
    exact hchoice
  | none =>
    simp only [hfamily, RefreshTokenRecord.family?_isSome_iff] at hchoice
    exact hchoice

end Store

end SilentAuth
