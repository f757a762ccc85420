import SilentAuth.Proofs.Cache.Saving

/-!
# Conditions on every record

What a change of a store leaves of its records is old, new, or an old record joined with a new one.
So a condition on every record is kept if the new records satisfy it, and what is joined of records
that do.

* `Bucket.mem_values_put`, `Bucket.mem_values_upsert`, `Bucket.mem_values_merge`: where the records
  of a changed bucket come from.
* `Store.Every`: a condition on every record of a store, of any kind.
* `Store.Every.saveResponse`, `Store.Every.withoutAccount`, `Store.Every.merge`: what keeps it.
-/

namespace SilentAuth

variable {α : Type}

/-! ### Buckets -/

namespace Bucket

variable [CacheRecord α] {bucket old update : Bucket α} {r new : α}

/-- What a bucket holds after a record was put is the record, or was there before. -/
theorem mem_values_put (h : r ∈ (bucket.put new).values) : r = new ∨ r ∈ bucket.values := by
  obtain ⟨key, hkey⟩ := Dict.mem_values_iff.1 h
  by_cases hnew : key = CacheRecord.key new
  · subst hnew
    rw [find?_put_self] at hkey
    exact .inl (Option.some.inj hkey).symm
  · rw [find?_put_of_ne _ hnew] at hkey
    exact .inr (Dict.mem_values_iff.2 ⟨key, (Option.filter_eq_some_iff.1 hkey).1⟩)

/-- What a bucket holds after a record was merged into it is the record, was there before, or is a
record of before with the new one merged into it. -/
theorem mem_values_upsert (h : r ∈ (bucket.upsert new).values) :
    r = new ∨ r ∈ bucket.values ∨ ∃ present ∈ bucket.values, r = CacheRecord.merge present new := by
  obtain ⟨key, hkey⟩ := Dict.mem_values_iff.1 h
  unfold upsert at hkey
  by_cases hnew : key = CacheRecord.key new
  · subst hnew
    rw [Dict.find?_insert_self] at hkey
    cases hpresent : bucket.find? (CacheRecord.key new) with
    | none =>
      rw [hpresent] at hkey
      exact .inl (Option.some.inj hkey).symm
    | some present =>
      rw [hpresent] at hkey
      exact .inr (.inr ⟨present, Dict.mem_values_iff.2 ⟨_, hpresent⟩, (Option.some.inj hkey).symm⟩)
  · rw [Dict.find?_insert_of_ne _ hnew] at hkey
    exact .inr (.inl (Dict.mem_values_iff.2 ⟨key, hkey⟩))

/-- What a merged bucket holds comes from the update, merged into a record of the older bucket or
not. -/
theorem mem_values_merge (h : r ∈ (old.merge update).values) :
    ∃ u ∈ update.values, r = u ∨ ∃ o ∈ old.values, r = CacheRecord.merge o u := by
  obtain ⟨key, hkey⟩ := Dict.mem_values_iff.1 h
  rw [find?_merge, Option.map_eq_some_iff] at hkey
  obtain ⟨u, hu, rfl⟩ := hkey
  refine ⟨u, Dict.mem_values_iff.2 ⟨key, hu⟩, ?_⟩
  cases ho : old.find? key with
  | none => exact .inl rfl
  | some o => exact .inr ⟨o, Dict.mem_values_iff.2 ⟨key, ho⟩, rfl⟩

/-- What holds of all records of a bucket and of a new one holds of all that it has afterwards. -/
theorem forall_values_put {P : α → Prop} (h : ∀ r ∈ bucket.values, P r) (hnew : P new) :
    ∀ r ∈ (bucket.put new).values, P r := by
  intro r hr
  rcases mem_values_put hr with rfl | hr
  · exact hnew
  · exact h r hr

/-- What holds of all records of a bucket and of a new one, and is kept by merging, holds of all
after the new one was merged into the bucket. -/
theorem forall_values_upsert {P : α → Prop}
    (hjoin : ∀ {old new}, P old → P new → P (CacheRecord.merge old new))
    (h : ∀ r ∈ bucket.values, P r) (hnew : P new) : ∀ r ∈ (bucket.upsert new).values, P r := by
  intro r hr
  rcases mem_values_upsert hr with rfl | hr | ⟨present, hpresent, rfl⟩
  · exact hnew
  · exact h r hr
  · exact hjoin (h present hpresent) hnew

/-- What holds of all records of two buckets, and is kept by merging, holds of all records of the
merged bucket. -/
theorem forall_values_merge {P : α → Prop}
    (hjoin : ∀ {old new}, P old → P new → P (CacheRecord.merge old new))
    (hold : ∀ r ∈ old.values, P r) (hupdate : ∀ r ∈ update.values, P r) :
    ∀ r ∈ (old.merge update).values, P r := by
  intro r hr
  obtain ⟨u, hu, rfl | ⟨o, ho, rfl⟩⟩ := mem_values_merge hr
  · exact hupdate r hu
  · exact hjoin (hold o ho) (hupdate u hu)

/-- What holds of all records of an update, and does not depend on what an older bucket adds to them,
holds of all records after they were merged into it. -/
theorem forall_values_merge_of_update {P : α → Prop}
    (hjoin : ∀ old {new}, P new → P (CacheRecord.merge old new)) (h : ∀ r ∈ update.values, P r)
    (old : Bucket α) : ∀ r ∈ (old.merge update).values, P r := by
  intro r hr
  obtain ⟨u, hu, rfl | ⟨o, _, rfl⟩⟩ := mem_values_merge hr
  · exact h r hu
  · exact hjoin o (h u hu)

end Bucket

/-! ### Stores -/

namespace Store

/-- Every record of a store, of whatever kind, satisfies a condition. -/
structure Every (P : {α : Type} → [CacheRecord α] → α → Prop) (s : Store) : Prop where
  accessTokens : ∀ r ∈ s.accessTokens.values, P r
  refreshTokens : ∀ r ∈ s.refreshTokens.values, P r
  idTokens : ∀ r ∈ s.idTokens.values, P r
  accounts : ∀ r ∈ s.accounts.values, P r
  appMetadata : ∀ r ∈ s.appMetadata.values, P r

variable {P : {α : Type} → [CacheRecord α] → α → Prop} {s old update : Store}

/-- The condition is kept when tokens are saved, if joining records keeps it and records without
unrecognized fields satisfy it. -/
theorem Every.saveResponse (h : s.Every P)
    (hjoin : ∀ {α : Type} [CacheRecord α] [LawfulCacheRecord α] {old new : α},
      P old → P new → P (CacheRecord.merge old new))
    (hbare : ∀ {α : Type} [CacheRecord α] {r : α}, CacheRecord.extra r = .empty → P r)
    (i : Issued) : (s.saveResponse i).Every P := by
  rw [saveResponse_eq]
  constructor
  case accessTokens =>
    refine Bucket.forall_values_put ?_ (hbare rfl)
    intro r hr
    exact h.accessTokens r (Dict.mem_values_of_filter hr)
  case refreshTokens =>
    cases i.response.refreshToken with
    | none => exact h.refreshTokens
    | some secret => exact Bucket.forall_values_put h.refreshTokens (hbare rfl)
  case idTokens =>
    cases i.response.idToken with
    | none => exact h.idTokens
    | some secret => exact Bucket.forall_values_put h.idTokens (hbare rfl)
  case accounts =>
    dsimp only
    split
    · exact h.accounts
    · exact Bucket.forall_values_upsert hjoin h.accounts (hbare rfl)
  case appMetadata => exact Bucket.forall_values_put h.appMetadata (hbare rfl)

/-- The condition is kept when an account is removed. -/
theorem Every.withoutAccount (h : s.Every P) (homeAccountId : String) (aliases : List String) :
    (s.withoutAccount homeAccountId aliases).Every P where
  accessTokens := fun r hr => h.accessTokens r (Dict.mem_values_of_filter hr)
  refreshTokens := fun r hr => h.refreshTokens r (Dict.mem_values_of_filter hr)
  idTokens := fun r hr => h.idTokens r (Dict.mem_values_of_filter hr)
  accounts := fun r hr => h.accounts r (Dict.mem_values_of_filter hr)
  appMetadata := h.appMetadata

/-- The condition is kept when stores are merged, if joining records keeps it. -/
theorem Every.merge (hold : old.Every P)
    (hjoin : ∀ {α : Type} [CacheRecord α] [LawfulCacheRecord α] {old new : α},
      P old → P new → P (CacheRecord.merge old new))
    (hupdate : update.Every P) : (old.merge update).Every P where
  accessTokens := Bucket.forall_values_merge hjoin hold.accessTokens hupdate.accessTokens
  refreshTokens := Bucket.forall_values_merge hjoin hold.refreshTokens hupdate.refreshTokens
  idTokens := Bucket.forall_values_merge hjoin hold.idTokens hupdate.idTokens
  accounts := Bucket.forall_values_merge hjoin hold.accounts hupdate.accounts
  appMetadata := Bucket.forall_values_merge hjoin hold.appMetadata hupdate.appMetadata

end Store

end SilentAuth
