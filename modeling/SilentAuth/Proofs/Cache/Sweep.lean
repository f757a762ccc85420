import SilentAuth.Proofs.Cache.Entries

/-!
# Which records an account takes with it

Every record but those about applications is of a home account and is cached under a host. Removing an
account drops the records that have its home account and one of the given hosts, up to case, and it
counts them.

* `Entry.IsOf`: the records of an account under some hosts.
* `Store.entryAt?_withoutAccount_iff`: which records are left when an account is removed.
* `Store.removeAccount_fst`: how many go.
-/

namespace SilentAuth

variable {home : String} {aliases : List String}

/-- A home account and a host, compared without regard to case. -/
theorem Store.belongs_iff {recordHome recordHost : String} :
    belongs home aliases recordHome recordHost = true ↔
      foldCase recordHome = foldCase home ∧ ∃ host ∈ aliases, foldCase host = foldCase recordHost := by
  rw [belongs, Bool.and_eq_true, sameText_iff, listed_iff]

namespace Entry

/-- The home account of a record and the host under which it is cached. What is known about an
application is of no account. -/
def owner? : Entry → Option (String × String)
  | accessToken r => some (r.homeAccountId, r.environment)
  | refreshToken r => some (r.homeAccountId, r.environment)
  | idToken r => some (r.homeAccountId, r.environment)
  | account r => some (r.homeAccountId, r.environment)
  | appMetadata _ => none

/-- A record is of an account under some hosts: it has the home account, and it is cached under one of
the hosts, up to case. -/
def IsOf (home : String) (aliases : List String) (e : Entry) : Prop :=
  ∃ owner ∈ e.owner?, foldCase owner.1 = foldCase home ∧
    ∃ host ∈ aliases, foldCase host = foldCase owner.2

instance (e : Entry) : Decidable (e.IsOf home aliases) :=
  inferInstanceAs (Decidable (∃ owner ∈ e.owner?, _))

/-- An entry is one of an account exactly if its owner is that account, under one of the hosts. -/
theorem isOf_iff_belongs {e : Entry} {recordHome recordHost : String}
    (h : e.owner? = some (recordHome, recordHost)) :
    e.IsOf home aliases ↔ Store.belongs home aliases recordHome recordHost = true := by
  simp [IsOf, h, Store.belongs_iff]

/-- What is known of an application belongs to no account. -/
theorem not_isOf_appMetadata {r : AppMetadataRecord} : ¬(appMetadata r).IsOf home aliases := by
  simp [IsOf, owner?]

end Entry

namespace Store

/-- All records of a store. -/
def entries (s : Store) : List Entry :=
  s.accessTokens.values.map .accessToken ++ s.refreshTokens.values.map .refreshToken ++
    s.idTokens.values.map .idToken ++ s.accounts.values.map .account ++
    s.appMetadata.values.map .appMetadata

variable {s : Store} {kind : RecordKind} {key : String} {e : Entry}

/-- When an account is removed, the records are left that are not of it, each under its key. -/
theorem entryAt?_withoutAccount_iff :
    (s.withoutAccount home aliases).entryAt? kind key = some e ↔
      s.entryAt? kind key = some e ∧ ¬e.IsOf home aliases := by
  have hbucket {α : Type} (entry : α → Entry) {test : α → Bool}
      (htest : ∀ r, (entry r).IsOf home aliases ↔ test r = true) (bucket : Bucket α) :
      ((bucket.filter fun _ r => !test r).find? key).map entry = some e ↔
        (bucket.find? key).map entry = some e ∧ ¬e.IsOf home aliases := by
    simp only [Option.map_eq_some_iff, Dict.find?_filter_eq_some_iff, Bool.not_eq_true']
    constructor
    · rintro ⟨r, ⟨hr, hkept⟩, rfl⟩
      exact ⟨⟨r, hr, rfl⟩, by simp [htest, hkept]⟩
    · rintro ⟨⟨r, hr, rfl⟩, hkept⟩
      exact ⟨r, ⟨hr, by simpa [htest] using hkept⟩, rfl⟩
  cases kind with
  | accessToken => exact hbucket .accessToken (fun _ => Entry.isOf_iff_belongs rfl) s.accessTokens
  | refreshToken => exact hbucket .refreshToken (fun _ => Entry.isOf_iff_belongs rfl) s.refreshTokens
  | idToken => exact hbucket .idToken (fun _ => Entry.isOf_iff_belongs rfl) s.idTokens
  | account => exact hbucket .account (fun _ => Entry.isOf_iff_belongs rfl) s.accounts
  | appMetadata =>
    refine (and_iff_left_of_imp ?_).symm
    intro hstored
    obtain ⟨r, _, rfl⟩ := Option.map_eq_some_iff.1 hstored
    exact Entry.not_isOf_appMetadata

/-- As many records go as the store has of the account. -/
theorem removeAccount_fst (s : Store) (home : String) (aliases : List String) :
    (s.removeAccount home aliases).1 = s.entries.countP fun e => e.IsOf home aliases := by
  have hcount {α : Type} (entry : α → Entry) {test : α → Bool}
      (htest : ∀ r, (entry r).IsOf home aliases ↔ test r = true) (bucket : Bucket α) :
      (bucket.filter fun _ r => !test r).size +
        (bucket.values.map entry).countP (fun e => e.IsOf home aliases) = bucket.size := by
    rw [List.countP_map, ← bucket.size_filter test]
    congr 2
    funext r
    simp [htest]
  have happ : (s.appMetadata.values.map Entry.appMetadata).countP
      (fun e => e.IsOf home aliases) = 0 := by
    simp [List.countP_eq_zero, Entry.not_isOf_appMetadata]
  have haccess := hcount .accessToken (fun _ => Entry.isOf_iff_belongs rfl) s.accessTokens
  have hrefresh := hcount .refreshToken (fun _ => Entry.isOf_iff_belongs rfl) s.refreshTokens
  have hid := hcount .idToken (fun _ => Entry.isOf_iff_belongs rfl) s.idTokens
  have haccount := hcount .account (fun _ => Entry.isOf_iff_belongs rfl) s.accounts
  simp only [removeAccount, withoutAccount, credentialCount, entries, List.countP_append, happ]
  omega

end Store

end SilentAuth
