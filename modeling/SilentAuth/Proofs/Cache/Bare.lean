import SilentAuth.Plan
import SilentAuth.Proofs.Cache.Fitting

/-!
# Stores without what they do not recognize

Unrecognized fields and sections pass through a store, but nothing that a store answers or changes
looks at them. A store is bare without them: its keys and the recognized fields of its records are
all that is left.

* `Store.bare`: the keys and the recognized fields.
* `Store.bare_saveResponse`, `Store.bare_withoutAccount`: changes of the bare store are those of the
  store.
* `Store.bare_merge`, `Store.bare_reread`: merging and persisting change only what is unrecognized.
* `Store.findAccessToken_bare`, `Store.offer_bare`: lookups see only the bare store.
-/

namespace SilentAuth

variable {α β : Type}

/-! ### Dictionaries -/

namespace Dict

/-- A dictionary keeps its size when its values are changed. -/
theorem size_mapValues (f : α → β) (d : Dict α) : (d.mapValues f).size = d.size := by
  simp [size, mapValues]

/-- Changing all values after one was stored is storing the changed one. -/
theorem mapValues_insert (f : α → β) (d : Dict α) (key : String) (v : α) :
    (d.insert key v).mapValues f = (d.mapValues f).insert key (f v) := by
  apply eq_of_find?_eq
  intro key'
  by_cases hkey : key' = key
  · subst hkey
    rw [find?_mapValues, find?_insert_self, find?_insert_self, Option.map_some]
  · rw [find?_mapValues, find?_insert_of_ne _ hkey, find?_insert_of_ne _ hkey, find?_mapValues]

/-- A test that does not see what becomes of the values keeps the same ones. -/
theorem mapValues_filter {f : α → α} {keep : String → α → Bool} (d : Dict α)
    (h : ∀ key v, keep key (f v) = keep key v) :
    (d.filter keep).mapValues f = (d.mapValues f).filter keep := by
  apply ext_entries
  simp only [mapValues, filter, List.filter_map]
  congr 2
  funext e
  exact (h e.1 e.2).symm

end Dict

/-! ### Records -/

/-- The recognized fields of a record. -/
def CacheRecord.bare [CacheRecord α] (r : α) : α := withExtra r .empty

namespace CacheRecord

variable [CacheRecord α] [LawfulCacheRecord α]

/-- Other unrecognized fields leave the recognized ones as they are. -/
@[simp] theorem bare_withExtra (r : α) (extra : Json.Members) :
    bare (withExtra r extra) = bare r :=
  LawfulCacheRecord.withExtra_withExtra r extra .empty

/-- The key of a record does not depend on its unrecognized fields. -/
@[simp] theorem key_bare (r : α) : key (bare r) = key r :=
  LawfulCacheRecord.key_withExtra r .empty

/-- A record without unrecognized fields is bare. -/
theorem bare_of_extra_eq_empty {r : α} (h : extra r = .empty) : bare r = r := by
  rw [bare, ← h, LawfulCacheRecord.withExtra_extra]

/-- A joined record has the recognized fields of the newer one. -/
theorem bare_merge (old update : α) : bare (merge old update) = bare update :=
  bare_withExtra update _

end CacheRecord

/-! ### Buckets -/

namespace Bucket

variable [CacheRecord α]

/-- The keys and the recognized fields of the records. -/
def bare (bucket : Bucket α) : Bucket α := bucket.mapValues CacheRecord.bare

/-- A lookup in a bare bucket finds the bare record. -/
theorem find?_bare (bucket : Bucket α) (key : String) :
    bucket.bare.find? key = (bucket.find? key).map CacheRecord.bare :=
  Dict.find?_mapValues CacheRecord.bare bucket key

/-- A bare bucket holds the bare records, in the same order. -/
theorem values_bare (bucket : Bucket α) :
    bucket.bare.values = bucket.values.map CacheRecord.bare :=
  Dict.values_mapValues CacheRecord.bare bucket

/-- A test of recognized fields keeps the same records. -/
theorem bare_filter (bucket : Bucket α) {keep : α → Bool}
    (h : ∀ r, keep (CacheRecord.bare r) = keep r) :
    Bucket.bare (bucket.filter fun _ r => keep r) = Dict.filter bucket.bare fun _ r => keep r :=
  Dict.mapValues_filter bucket fun _ => h

variable [LawfulCacheRecord α]

/-- Putting a record commutes with dropping the unrecognized fields. -/
theorem bare_put (bucket : Bucket α) (r : α) :
    (bucket.put r).bare = bucket.bare.put (CacheRecord.bare r) := by
  unfold put bare
  rw [CacheRecord.key_bare, Dict.mapValues_insert, Dict.mapValues_filter]
  intro key existing
  rw [CacheRecord.key_bare]

/-- A record without unrecognized fields is stored in the place of an old one. -/
theorem bare_upsert (bucket : Bucket α) {r : α} (h : CacheRecord.extra r = .empty) :
    (bucket.upsert r).bare = bucket.bare.upsert r := by
  have hold : ∀ old : α, CacheRecord.merge (CacheRecord.bare old) r = r := by
    intro old
    have hextra : CacheRecord.extra (CacheRecord.bare old) = .empty :=
      LawfulCacheRecord.extra_withExtra old .empty
    rw [CacheRecord.merge, hextra, h, Json.Members.merge_self, ← h,
      LawfulCacheRecord.withExtra_extra]
  simp only [upsert, find?_bare]
  rw [bare, Dict.mapValues_insert]
  congr 1
  cases bucket.find? (CacheRecord.key r) with
  | none => exact CacheRecord.bare_of_extra_eq_empty h
  | some old =>
    rw [Option.map_some, Option.elim_some, Option.elim_some, hold, CacheRecord.bare_merge,
      CacheRecord.bare_of_extra_eq_empty h]

/-- A merged bucket has the keys and the recognized fields of the update. -/
theorem bare_merge (old update : Bucket α) : (old.merge update).bare = update.bare := by
  apply Dict.eq_of_find?_eq
  intro key
  rw [find?_bare, find?_bare, find?_merge, Option.map_map]
  congr 1
  funext r
  cases old.find? key with
  | none => rfl
  | some o => exact CacheRecord.bare_merge o r

end Bucket

/-- A bucket whose records are read again as they are has its keys and recognized fields in its
document. -/
theorem Bucket.bare_reread [CacheRecord α] [PersistentRecord α] {bucket : Bucket α}
    (h : ∀ r ∈ bucket.values, PersistentRecord.restate r = r) :
    Bucket.bare (bucket.mapValues CacheRecord.reread) = bucket.bare := by
  apply Dict.eq_of_find?_eq
  intro key
  rw [find?_bare, find?_bare, Dict.find?_mapValues, Option.map_map]
  cases hfind : bucket.find? key with
  | none => rfl
  | some r =>
    have hr : PersistentRecord.restate r = r := h r (Dict.mem_values_iff.2 ⟨key, hfind⟩)
    rw [Option.map_some, Option.map_some, Function.comp_apply, CacheRecord.reread, hr,
      CacheRecord.bare_withExtra]

/-! ### Stores -/

namespace Store

/-- The keys of the buckets and the recognized fields of their records. -/
def bare (s : Store) : Store where
  accessTokens := s.accessTokens.bare
  refreshTokens := s.refreshTokens.bare
  idTokens := s.idTokens.bare
  accounts := s.accounts.bare
  appMetadata := s.appMetadata.bare
  other := .empty

/-- A document that was brought up to date has the keys and the recognized fields of the update. -/
theorem bare_merge (old update : Store) : (old.merge update).bare = update.bare := by
  simp only [merge, bare, Bucket.bare_merge]

/-- A document says the keys and the recognized fields of a store that is read again as it is. -/
theorem bare_reread {s : Store} (h : s.Plain) : s.reread.bare = s.bare := by
  have haccess : Bucket.bare (s.accessTokens.mapValues CacheRecord.reread) = s.accessTokens.bare :=
    Bucket.bare_reread h
  have hrefresh : Bucket.bare (s.refreshTokens.mapValues CacheRecord.reread) =
      s.refreshTokens.bare := Bucket.bare_reread fun _ _ => rfl
  have hid : Bucket.bare (s.idTokens.mapValues CacheRecord.reread) = s.idTokens.bare :=
    Bucket.bare_reread fun _ _ => rfl
  have haccounts : Bucket.bare (s.accounts.mapValues CacheRecord.reread) = s.accounts.bare :=
    Bucket.bare_reread fun _ _ => rfl
  have happ : Bucket.bare (s.appMetadata.mapValues CacheRecord.reread) = s.appMetadata.bare :=
    Bucket.bare_reread fun _ _ => rfl
  rw [reread, bare, haccess, hrefresh, hid, haccounts, happ]
  rfl

/-! ### Changes -/

/-- Saving a response changes the bare store as it changes the store. -/
theorem bare_saveResponse (s : Store) (i : Issued) :
    (s.saveResponse i).bare = s.bare.saveResponse i := by
  rw [saveResponse_eq, saveResponse_eq]
  have haccess : Bucket.bare (Bucket.put (s.accessTokens.filter fun _ r => !i.replaces r)
      i.accessTokenRecord) = Bucket.put (Dict.filter s.accessTokens.bare fun _ r => !i.replaces r)
        i.accessTokenRecord := by
    rw [Bucket.bare_put, Bucket.bare_filter _ fun _ => rfl,
      CacheRecord.bare_of_extra_eq_empty rfl]
  have hrefresh : Bucket.bare (i.response.refreshToken.elim s.refreshTokens fun secret =>
      s.refreshTokens.put (i.refreshTokenRecord secret)) =
        i.response.refreshToken.elim s.refreshTokens.bare fun secret =>
          s.refreshTokens.bare.put (i.refreshTokenRecord secret) := by
    cases i.response.refreshToken with
    | none => rfl
    | some secret => exact Bucket.bare_put _ _
  have hid : Bucket.bare (i.response.idToken.elim s.idTokens fun secret =>
      s.idTokens.put (i.idTokenRecord secret)) =
        i.response.idToken.elim s.idTokens.bare fun secret =>
          s.idTokens.bare.put (i.idTokenRecord secret) := by
    cases i.response.idToken with
    | none => rfl
    | some secret => exact Bucket.bare_put _ _
  have haccounts : Bucket.bare
      (if i.homeAccountId = "" then s.accounts else s.accounts.upsert i.accountRecord) =
        if i.homeAccountId = "" then s.accounts.bare else s.accounts.bare.upsert i.accountRecord := by
    split
    · rfl
    · exact Bucket.bare_upsert _ rfl
  have happ : Bucket.bare (s.appMetadata.put i.appMetadataRecord) =
      s.appMetadata.bare.put i.appMetadataRecord := Bucket.bare_put _ _
  simp only [bare, haccess, hrefresh, hid, haccounts, happ]

/-- Removing an account changes the bare store as it changes the store. -/
theorem bare_withoutAccount (s : Store) (homeAccountId : String) (aliases : List String) :
    (s.withoutAccount homeAccountId aliases).bare =
      s.bare.withoutAccount homeAccountId aliases := by
  simp only [withoutAccount, bare]
  congr 1 <;> exact Bucket.bare_filter _ fun _ => rfl

/-- A bare store holds as many credentials. -/
theorem credentialCount_bare (s : Store) : s.bare.credentialCount = s.credentialCount := by
  simp only [credentialCount, bare, Bucket.bare, Dict.size_mapValues]

/-- As many records are removed from the bare store. -/
theorem removeAccount_bare (s : Store) (homeAccountId : String) (aliases : List String) :
    s.bare.removeAccount homeAccountId aliases =
      ((s.removeAccount homeAccountId aliases).1,
        (s.removeAccount homeAccountId aliases).2.bare) := by
  simp only [removeAccount, ← bare_withoutAccount, credentialCount_bare]

end Store

/-! ### Lookups -/

/-- A test of recognized fields finds the same record. -/
theorem Bucket.values_find?_bare [CacheRecord α] (bucket : Bucket α) {test : α → Bool}
    (h : ∀ r, test (CacheRecord.bare r) = test r) :
    bucket.bare.values.find? test = (bucket.values.find? test).map CacheRecord.bare := by
  rw [values_bare, List.find?_map]
  congr 2
  funext r
  exact h r

/-- A test of recognized fields finds the same records. -/
theorem Bucket.values_filter_bare [CacheRecord α] (bucket : Bucket α) {test : α → Bool}
    (h : ∀ r, test (CacheRecord.bare r) = test r) :
    bucket.bare.values.filter test = (bucket.values.filter test).map CacheRecord.bare := by
  rw [values_bare, List.filter_map]
  congr 2
  funext r
  exact h r

/-- The longest-lived record is found by its recognized fields. -/
theorem longestLived_map_bare (records : List AccessTokenRecord) :
    longestLived (records.map CacheRecord.bare) = (longestLived records).map CacheRecord.bare := by
  induction records using List.reverseRecOn with
  | nil => rfl
  | append_singleton records r ih =>
    rw [List.map_append, List.map_singleton, longestLived_append_singleton,
      longestLived_append_singleton, ih]
    cases longestLived records with
    | none => rfl
    | some b =>
      have hexpires : ∀ r : AccessTokenRecord, (CacheRecord.bare r).expiresOn = r.expiresOn :=
        fun _ => rfl
      simp only [Option.map_some, hexpires]
      split <;> rfl

/-- A decision depends on the recognized fields of the token. -/
theorem Decision.of_bare (token : Option AccessTokenRecord) (forceRefresh : Bool) (now : UnixTime)
    (buffer : Span) : Decision.of (token.map CacheRecord.bare) forceRefresh now buffer =
      match Decision.of token forceRefresh now buffer with
      | .cacheHit r => .cacheHit (CacheRecord.bare r)
      | .needsRefresh reason => .needsRefresh reason := by
  cases token with
  | none => rfl
  | some r =>
    have hsecret : (CacheRecord.bare r).secret = r.secret := rfl
    have hvalid : ∀ t, (CacheRecord.bare r).validAt t = r.validAt t := fun _ => rfl
    have hdue : (CacheRecord.bare r).refreshDueAt now = r.refreshDueAt now := rfl
    simp only [Option.map_some, of, hsecret, hvalid, hdue]
    split_ifs <;> rfl

namespace Store

variable (s : Store)

/-- The search for a valid access token ignores unrecognized fields. -/
theorem findAccessToken_bare (q : AccessTokenQuery) :
    s.bare.findAccessToken q = (s.findAccessToken q).map CacheRecord.bare :=
  Bucket.values_find?_bare s.accessTokens fun _ => rfl

/-- The search for the longest-lived access token ignores unrecognized fields. -/
theorem findLatestAccessToken_bare (q : AccessTokenQuery) :
    s.bare.findLatestAccessToken q = (s.findLatestAccessToken q).map CacheRecord.bare := by
  have hfilter : s.bare.accessTokens.values.filter q.isMatch =
      (s.accessTokens.values.filter q.isMatch).map CacheRecord.bare :=
    Bucket.values_filter_bare s.accessTokens fun _ => rfl
  rw [findLatestAccessToken, hfilter, longestLived_map_bare]
  rfl

/-- The search for an ID token ignores unrecognized fields. -/
theorem findIdToken_bare (homeAccountId realm clientId : String) (aliases : List String) :
    s.bare.findIdToken homeAccountId realm clientId aliases =
      (s.findIdToken homeAccountId realm clientId aliases).map CacheRecord.bare :=
  Bucket.values_find?_bare s.idTokens fun _ => rfl

/-- The search for an account ignores unrecognized fields. -/
theorem findAccount_bare (homeAccountId : String) (realm : Option String) (aliases : List String) :
    s.bare.findAccount homeAccountId realm aliases =
      (s.findAccount homeAccountId realm aliases).map CacheRecord.bare := by
  have hrecords : s.bare.accountRecords homeAccountId aliases =
      (s.accountRecords homeAccountId aliases).map CacheRecord.bare :=
    Bucket.values_filter_bare s.accounts fun _ => rfl
  simp only [findAccount, hrecords, List.head?_map]
  cases realm with
  | none => rfl
  | some realm =>
    simp only [Option.bind_some, List.find?_map, Option.map_or]
    rfl

/-- The family of an application does not depend on unrecognized fields. -/
theorem familyIdFor_bare (clientId : String) (aliases : List String) :
    s.bare.familyIdFor clientId aliases = s.familyIdFor clientId aliases := by
  let known (r : AppMetadataRecord) : Bool :=
    sameText r.clientId clientId && listed r.environment aliases
  have hfilter : s.bare.appMetadata.values.filter known =
      (s.appMetadata.values.filter known).map CacheRecord.bare :=
    Bucket.values_filter_bare s.appMetadata fun _ => rfl
  unfold familyIdFor
  rw [hfilter, List.findSome?_map]
  rfl

/-- The choice of a refresh token ignores unrecognized fields. -/
theorem selectRefreshToken_bare (homeAccountId clientId : String) (aliases : List String) :
    s.bare.selectRefreshToken homeAccountId clientId aliases =
      (s.selectRefreshToken homeAccountId clientId aliases).map CacheRecord.bare := by
  have hown : s.bare.findRefreshToken homeAccountId clientId aliases =
      (s.findRefreshToken homeAccountId clientId aliases).map CacheRecord.bare :=
    Bucket.values_find?_bare s.refreshTokens fun _ => rfl
  have hfamily : ∀ family, s.bare.findFamilyRefreshToken homeAccountId family aliases =
      (s.findFamilyRefreshToken homeAccountId family aliases).map CacheRecord.bare :=
    fun _ => Bucket.values_find?_bare s.refreshTokens fun _ => rfl
  have hany : s.bare.findAnyFamilyRefreshToken homeAccountId aliases =
      (s.findAnyFamilyRefreshToken homeAccountId aliases).map CacheRecord.bare :=
    Bucket.values_find?_bare s.refreshTokens fun _ => rfl
  unfold selectRefreshToken
  rw [familyIdFor_bare, hown, hany]
  cases s.familyIdFor clientId aliases with
  | none => simp only [Option.map_or]
  | some family => simp only [hfamily, Option.map_or]

/-- The same refresh is planned. -/
theorem planRefresh_bare (q : AccountQuery) (reason : RefreshReason) (cached : Option AuthResult) :
    s.bare.planRefresh q reason cached = s.planRefresh q reason cached := by
  unfold planRefresh
  rw [selectRefreshToken_bare]
  cases s.selectRefreshToken q.account.homeAccountId q.clientId q.aliases <;> rfl

/-- The bare store offers what the store offers. -/
theorem offer_bare (q : AccountQuery) : s.bare.offer q = s.offer q := by
  have hid : ∀ home realm client aliases,
      (s.bare.findIdToken home realm client aliases).map IdTokenRecord.secret =
        (s.findIdToken home realm client aliases).map IdTokenRecord.secret := by
    intro home realm client aliases
    rw [findIdToken_bare, Option.map_map]
    rfl
  unfold offer accountFor
  rw [findAccount_bare, findLatestAccessToken_bare]
  cases s.findAccount q.account.homeAccountId (some q.accountTenant) q.aliases with
  | none => rfl
  | some record =>
    have hknown : Account.ofRecord (CacheRecord.bare record) = Account.ofRecord record := rfl
    simp only [Option.map_some, hid, hknown, planRefresh_bare, Decision.of_bare]
    cases s.findLatestAccessToken q.accessTokenQuery with
    | none => rfl
    | some r => cases Decision.of (some r) q.forceRefresh q.now q.buffer <;> rfl

end Store

end SilentAuth
