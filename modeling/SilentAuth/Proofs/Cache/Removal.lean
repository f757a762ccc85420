import SilentAuth.Proofs.Cache.Keeping
import SilentAuth.Proofs.Cache.Sweep

/-!
# What is left when an account is removed

Removing an account drops its tokens and its records under all the hosts that it is given, and
nothing brings them back: not the older document that the store is merged into when it is persisted,
and not reading that document again.

* `Store.Without`: nothing of an account is held under some hosts.
* `Store.Without.merge`, `Store.Without.reread`, `TokenCache.without_kept`: nothing of it is found
  at the next access.
* `Store.removeAccount_pos`: at least one record goes if the account has one.
* `Store.Without.findAccount_eq_none`: it is not found.
-/

namespace SilentAuth

namespace Store

/-! ### Nothing of an account -/

variable {home : String} {aliases : List String} {s : Store}

/-- A store holds no token and no record of an account under some hosts. -/
structure Without (home : String) (aliases : List String) (s : Store) : Prop where
  accessTokens : ∀ r ∈ s.accessTokens.values,
    belongs home aliases r.homeAccountId r.environment = false
  refreshTokens : ∀ r ∈ s.refreshTokens.values,
    belongs home aliases r.homeAccountId r.environment = false
  idTokens : ∀ r ∈ s.idTokens.values,
    belongs home aliases r.homeAccountId r.environment = false
  accounts : ∀ r ∈ s.accounts.values,
    belongs home aliases r.homeAccountId r.environment = false

/-- A store without an account holds nothing of it. -/
theorem without_withoutAccount (s : Store) (home : String) (aliases : List String) :
    (s.withoutAccount home aliases).Without home aliases := by
  constructor <;> simp [withoutAccount]

/-- The older document brings nothing back. -/
theorem Without.merge (h : s.Without home aliases) (old : Store) :
    (old.merge s).Without home aliases where
  accessTokens := Bucket.forall_values_merge_of_update (fun _ _ h => h) h.accessTokens _
  refreshTokens := Bucket.forall_values_merge_of_update (fun _ _ h => h) h.refreshTokens _
  idTokens := Bucket.forall_values_merge_of_update (fun _ _ h => h) h.idTokens _
  accounts := Bucket.forall_values_merge_of_update (fun _ _ h => h) h.accounts _

/-- Nothing is read that was not written. -/
theorem Without.reread (h : s.Without home aliases) : s.reread.Without home aliases where
  accessTokens := Bucket.forall_values_reread (fun h => h) h.accessTokens
  refreshTokens := Bucket.forall_values_reread (fun h => h) h.refreshTokens
  idTokens := Bucket.forall_values_reread (fun h => h) h.idTokens
  accounts := Bucket.forall_values_reread (fun h => h) h.accounts

/-! ### How much goes -/

/-- Removing an account that has a record removes at least that. -/
theorem removeAccount_pos {r : AccountRecord} (hr : r ∈ s.accounts.values)
    (hbelongs : belongs home aliases r.homeAccountId r.environment = true) :
    0 < (s.removeAccount home aliases).1 := by
  have hmem : Entry.account r ∈ s.entries := by simp [entries, hr]
  have hof : (Entry.account r).IsOf home aliases := (Entry.isOf_iff_belongs rfl).2 hbelongs
  rw [removeAccount_fst, List.countP_pos_iff]
  exact ⟨.account r, hmem, decide_eq_true hof⟩

/-! ### Looking for it -/

/-- It makes no difference in which order or case the hosts are listed. -/
theorem belongs_congr {aliases' : List String}
    (h : ∀ name, listed name aliases = listed name aliases') (home recordHome recordHost : String) :
    belongs home aliases recordHome recordHost = belongs home aliases' recordHome recordHost := by
  rw [belongs, belongs, h]

/-- An account of which nothing is held is not found. -/
theorem Without.findAccount_eq_none (h : s.Without home aliases) {aliases' : List String}
    (haliases : ∀ name, listed name aliases = listed name aliases') (realm : Option String) :
    s.findAccount home realm aliases' = none := by
  rw [← Option.not_isSome_iff_eq_none, findAccount_isSome_iff]
  rintro ⟨r, hr, hbelongs⟩
  rw [← belongs_congr haliases, h.accounts r hr] at hbelongs
  cases hbelongs

end Store

/-! ### At the next access -/

/-- What is persisted of a cache without an account says nothing of it. -/
theorem TokenCache.without_document {c : TokenCache} {home : String} {aliases : List String}
    (h : c.store.Without home aliases) : c.document.Without home aliases := by
  unfold document
  cases c.baseline with
  | none => exact h
  | some b => exact h.merge b

/-- The next access finds nothing of it. -/
theorem TokenCache.without_kept {c : TokenCache} {home : String} {aliases : List String}
    (h : c.store.Without home aliases) (persisted : Bool) :
    (c.kept persisted).Without home aliases := by
  unfold kept
  split
  · exact (without_document h).reread
  · exact h

end SilentAuth
