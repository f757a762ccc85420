import SilentAuth.Proofs.Cache.Fitting

/-!
# What is kept until the next access

A cache that was changed is persisted as a document, and the next access finds what that document
says. Record by record this is what was in memory: only unrecognized fields may come from the older
document, and the scope set of an access token is read as the words of its text.

* `TokenCache.Legible`: caches whose documents can be read again; `TokenCache.Documented`: those that
  came from documents themselves.
* `TokenCache.kept`: the store that the next access finds.
* `TokenCache.echoes_accessTokens_kept`, `TokenCache.echoes_accounts_kept`: its records.
* `TokenCache.findLatestAccessToken_kept_of_yields`: a query for what was issued finds it at the next
  access if all other matches yield to it, and `TokenCache.findLatestAccessToken_kept`: if scopes are
  kept as they are.
* `TokenCache.findAccount_kept_isSome`: accounts are found at the next access, too.
-/

namespace SilentAuth

variable {α : Type}

/-! ### Caches from documents -/

/-- The empty store fits into a document, and is read again as it is. -/
theorem Store.fits_empty : Store.empty.Fits ∧ Store.empty.Plain := by
  constructor
  · constructor
    case shallow => decide
    all_goals
      intro r hr
      cases hr
  · intro r hr
    cases hr

namespace TokenCache

/-- A cache whose document can be read again: neither in its store nor in the document on which it is
based does an unrecognized field bear a recognized name or nest too deep. -/
structure Legible (c : TokenCache) : Prop where
  fits : c.store.Fits
  baseline : ∀ b, c.baseline = some b → b.Fits

/-- A cache that was loaded, or that is made of documents otherwise. -/
structure Documented (c : TokenCache) : Prop where
  fits : c.store.Fits
  plain : c.store.Plain
  baseline : ∀ b, c.baseline = some b → b.Fits

/-- What comes from documents can be read again. -/
theorem Documented.legible {c : TokenCache} (h : c.Documented) : c.Legible := ⟨h.fits, h.baseline⟩

/-- What is loaded comes from a document. -/
theorem documented_of_load? {text : String} {c : TokenCache} (h : load? text = some c) :
    c.Documented := by
  obtain ⟨s, hs, rfl⟩ := Option.map_eq_some_iff.1 h
  have hstore : s.Fits ∧ s.Plain := by
    unfold parse? at hs
    split at hs
    · cases hs
      exact Store.fits_empty
    · obtain ⟨tree, _, htree⟩ := Option.bind_eq_some_iff.1 hs
      exact Store.of_ofTree?_eq_some htree
  refine ⟨hstore.1, hstore.2, ?_⟩
  intro b hb
  cases hb
  exact hstore.1

/-- The document to persist can be read again if its parts can. -/
theorem fits_document {c : TokenCache} (hstore : c.store.Fits)
    (hbaseline : ∀ b, c.baseline = some b → b.Fits) : c.document.Fits := by
  unfold document
  cases hb : c.baseline with
  | none => exact hstore
  | some b => exact (hbaseline b hb).merge hstore

/-- What was handed out is loaded as the document says it. -/
theorem load?_save {c : TokenCache} (h : c.document.Fits) :
    load? c.save.1 = some ⟨c.document.reread, some c.document.reread, false⟩ := by
  have hparse : parse? c.save.1 = some c.document.reread := parse?_text h
  rw [load?, hparse]
  rfl

/-- A cache from documents stays one when it is handed out. -/
theorem Documented.save {c : TokenCache} (h : c.Documented) : c.save.2.Documented := by
  have hfits : c.document.Fits := fits_document h.fits h.baseline
  refine ⟨hfits, ?_, ?_⟩
  · show c.document.Plain
    unfold document
    cases c.baseline with
    | none => exact h.plain
    | some b => exact h.plain.merge b
  · intro b hb
    cases hb
    exact hfits

/-- The store that is found at the next access: what the document says if the cache was changed and
is persisted, and else the one in memory. -/
def kept (persisted : Bool) (c : TokenCache) : Store :=
  if persisted && c.changed then c.document.reread else c.store

end TokenCache

/-! ### Buckets that say the same -/

/-- A bucket holds what another one holds, record by record: its recognized fields are those that
`f` makes of the other's. -/
def Bucket.Echoes [CacheRecord α] (f : α → α) (written read : Bucket α) : Prop :=
  ∀ key, ∃ extra, read.find? key =
    (written.find? key).map fun r => CacheRecord.withExtra (f r) extra

namespace Bucket

variable [CacheRecord α] {f : α → α} {written read : Bucket α}

/-- Where a record comes from. -/
theorem Echoes.of_find? (h : Echoes f written read) {key : String} {r : α}
    (hr : read.find? key = some r) :
    ∃ w extra, written.find? key = some w ∧ r = CacheRecord.withExtra (f w) extra := by
  obtain ⟨extra, hread⟩ := h key
  rw [hr] at hread
  obtain ⟨w, hw, hrw⟩ := Option.map_eq_some_iff.1 hread.symm
  exact ⟨w, extra, hw, hrw.symm⟩

/-- Where a record goes. -/
theorem Echoes.find? (h : Echoes f written read) {key : String} {w : α}
    (hw : written.find? key = some w) :
    ∃ extra, read.find? key = some (CacheRecord.withExtra (f w) extra) := by
  obtain ⟨extra, hread⟩ := h key
  rw [hw] at hread
  exact ⟨extra, hread⟩

/-- A bucket says what it holds. -/
theorem Echoes.refl [LawfulCacheRecord α] (bucket : Bucket α) : Echoes id bucket bucket := by
  intro key
  cases hfind : bucket.find? key with
  | none => exact ⟨.empty, rfl⟩
  | some r => exact ⟨CacheRecord.extra r, congrArg some (LawfulCacheRecord.withExtra_extra r).symm⟩

variable [PersistentRecord α]

/-- What holds of all records of a bucket holds of all that are read again, if it does so of each. -/
theorem forall_values_reread {P : α → Prop} {bucket : Bucket α}
    (hreread : ∀ {r}, P r → P (CacheRecord.reread r)) (h : ∀ r ∈ bucket.values, P r) :
    ∀ r ∈ (Dict.mapValues CacheRecord.reread bucket).values, P r := by
  rw [Dict.values_mapValues]
  intro r hr
  obtain ⟨written, hwritten, rfl⟩ := List.mem_map.1 hr
  exact hreread (h written hwritten)

/-- What a bucket says that was persisted. -/
theorem echoes_reread (bucket : Bucket α) :
    Echoes PersistentRecord.restate bucket (bucket.mapValues CacheRecord.reread) := by
  intro key
  rw [Dict.find?_mapValues]
  cases bucket.find? key with
  | none => exact ⟨.empty, rfl⟩
  | some r => exact ⟨(CacheRecord.extra r).reread, rfl⟩

/-- What a bucket says that was merged into an older one and persisted. -/
theorem echoes_reread_merge (old update : Bucket α) :
    Echoes PersistentRecord.restate update
      (Dict.mapValues CacheRecord.reread (old.merge update)) := by
  intro key
  rw [Dict.find?_mapValues, find?_merge]
  cases update.find? key with
  | none => exact ⟨.empty, rfl⟩
  | some r =>
    cases old.find? key with
    | none => exact ⟨(CacheRecord.extra r).reread, rfl⟩
    | some o =>
      refine ⟨(CacheRecord.extra (CacheRecord.merge o r)).reread, ?_⟩
      simp only [Option.map_some, Option.elim_some, CacheRecord.reread, CacheRecord.merge,
        PersistentRecord.restate_withExtra, LawfulCacheRecord.withExtra_withExtra]

end Bucket

namespace TokenCache

/-! ### Records of the store that is kept -/

variable {c : TokenCache} {persisted : Bool}

/-- Access tokens are kept as they are, or as they are read. -/
theorem echoes_accessTokens_kept : Bucket.Echoes
    (if (persisted && c.changed) = true then PersistentRecord.restate else id)
    c.store.accessTokens (c.kept persisted).accessTokens := by
  unfold kept
  split
  · unfold document
    cases c.baseline with
    | none => exact Bucket.echoes_reread c.store.accessTokens
    | some b => exact Bucket.echoes_reread_merge b.accessTokens c.store.accessTokens
  · exact Bucket.Echoes.refl c.store.accessTokens

/-- Accounts are kept as they are. -/
theorem echoes_accounts_kept :
    Bucket.Echoes id c.store.accounts (c.kept persisted).accounts := by
  unfold kept
  split
  · unfold document
    cases c.baseline with
    | none => exact Bucket.echoes_reread c.store.accounts
    | some b => exact Bucket.echoes_reread_merge b.accounts c.store.accounts
  · exact Bucket.Echoes.refl c.store.accounts

end TokenCache

/-! ### What was issued -/

/-- A scope set as the next access finds it. -/
def Scopes.kept (persisted : Bool) (s : Scopes) : Scopes := if persisted then .ofText s.text else s

/-- Granted scopes contain the requested ones at the next access, if they contain them and, where the
cache is persisted, their text says them. -/
theorem Scopes.containsAll_kept {persisted : Bool} {granted requested : Scopes}
    (hgranted : ∀ name ∈ requested.names, isReserved name = false →
      listed name granted.names = true)
    (htext : persisted = true → ∀ name ∈ requested.names, isReserved name = false →
      listed name (ofText granted.text).names = true) :
    (granted.kept persisted).containsAll requested.withoutReserved = true := by
  rw [containsAll_iff]
  intro name hname
  obtain ⟨hmem, hreserved⟩ := mem_names_withoutReserved.1 hname
  cases persisted with
  | false => exact hgranted name hmem hreserved
  | true => exact htext rfl name hmem hreserved

/-- The access token that was issued, as the next access finds it; `extra` is what an older document
adds to it. -/
def Issued.keptRecord (i : Issued) (persisted : Bool) (extra : Json.Members) : AccessTokenRecord :=
  { i.accessTokenRecord with target := i.target.kept persisted, extra }

namespace TokenCache

variable {c : TokenCache} {i : Issued} {q : AccessTokenQuery}

/-- The access token that was issued is kept, and all that is kept besides was cached before and is
not replaced by it. -/
theorem exists_keptRecord (c : TokenCache) (i : Issued) (persisted : Bool) :
    (∃ extra, ((c.modify (·.saveResponse i)).kept persisted).accessTokens.find?
        (CacheRecord.key i.accessTokenRecord) = some (i.keptRecord persisted extra)) ∧
      ∀ key r, ((c.modify (·.saveResponse i)).kept persisted).accessTokens.find? key = some r →
        key ≠ CacheRecord.key i.accessTokenRecord →
          ∃ w ∈ c.store.accessTokens.values, i.replaces w = false ∧
            ∃ extra, r = { w with target := w.target.kept persisted, extra } := by
  have hechoes : Bucket.Echoes (if persisted = true then PersistentRecord.restate else id)
      (c.store.saveResponse i).accessTokens
      ((c.modify (·.saveResponse i)).kept persisted).accessTokens := by
    have h : Bucket.Echoes (if (persisted && true) = true then PersistentRecord.restate else id)
        (c.store.saveResponse i).accessTokens
        ((c.modify (·.saveResponse i)).kept persisted).accessTokens := echoes_accessTokens_kept
    rwa [Bool.and_true] at h
  have hkept : ∀ (w : AccessTokenRecord) (extra : Json.Members),
      CacheRecord.withExtra ((if persisted = true then PersistentRecord.restate else id) w) extra =
        { w with target := w.target.kept persisted, extra } := by
    intro w extra
    cases persisted <;> rfl
  constructor
  · obtain ⟨extra, hfind⟩ := hechoes.find? Store.find?_accessTokens_saveResponse_self
    exact ⟨extra, hfind.trans (congrArg some (hkept _ _))⟩
  · intro key r hkey hnew
    obtain ⟨w, extra, hw, rfl⟩ := hechoes.of_find? hkey
    obtain ⟨hcached, hreplaces⟩ := Store.find?_accessTokens_of_saveResponse hw hnew
    exact ⟨w, Dict.mem_values_iff.2 ⟨key, hcached⟩, hreplaces, extra, hkept w extra⟩

/-- A query that what was issued answers finds it at the next access, if the scopes that are found
there still contain the requested ones, and all other matches yield to it. -/
theorem findLatestAccessToken_kept_of_yields {persisted : Bool} (h : i.Answers q)
    (hscopes : (i.target.kept persisted).containsAll q.scopes.withoutReserved = true)
    (hyields : ∀ key other,
      ((c.modify (·.saveResponse i)).kept persisted).accessTokens.find? key = some other →
        q.isMatch other = true → key ≠ CacheRecord.key i.accessTokenRecord →
          YieldsTo (key, other) (CacheRecord.key i.accessTokenRecord, i.accessTokenRecord)) :
    ∃ extra, ((c.modify (·.saveResponse i)).kept persisted).findLatestAccessToken q =
      some (i.keptRecord persisted extra) := by
  obtain ⟨extra, hfind⟩ := (exists_keptRecord c i persisted).1
  refine ⟨extra, Store.findLatestAccessToken_eq_some_iff.2 ⟨_, hfind, ?_, hyields⟩⟩
  obtain ⟨hhome, henvironment, hrealm, hclient, _⟩ := AccessTokenQuery.isMatch_iff.1 h.isMatch
  have hgranted := Scopes.containsAll_iff.1 hscopes
  refine AccessTokenQuery.isMatch_iff.2 ⟨hhome, henvironment, hrealm, hclient, ?_⟩
  intro name hname hreserved
  exact hgranted name (Scopes.mem_names_withoutReserved.2 ⟨hname, hreserved⟩)

/-- Where scopes are kept as they are, nothing but what was issued is a match at the next access. -/
theorem eq_key_of_isMatch_kept {persisted : Bool} (h : i.Answers q)
    (hplain : persisted = true → c.store.Plain) {key : String} {r : AccessTokenRecord}
    (hkey : ((c.modify (·.saveResponse i)).kept persisted).accessTokens.find? key = some r)
    (hmatch : q.isMatch r = true) : key = CacheRecord.key i.accessTokenRecord := by
  by_contra hnew
  obtain ⟨w, hw, hreplaces, extra, rfl⟩ := (exists_keptRecord c i persisted).2 key r hkey hnew
  -- the record is found as it was cached, so it would have been replaced
  have hsame : w.target.kept persisted = w.target := by
    cases persisted with
    | false => rfl
    | true => exact congrArg AccessTokenRecord.target (hplain rfl w hw)
  rw [hsame] at hmatch
  have hmatch' : q.isMatch w = true := hmatch
  rw [h.replaces hmatch'] at hreplaces
  cases hreplaces

/-- A query that what was issued answers finds it at the next access, if the scopes that are found
there still contain the requested ones, and scopes are kept as they are. -/
theorem findLatestAccessToken_kept {persisted : Bool} (h : i.Answers q)
    (hplain : persisted = true → c.store.Plain)
    (hscopes : (i.target.kept persisted).containsAll q.scopes.withoutReserved = true) :
    ∃ extra, ((c.modify (·.saveResponse i)).kept persisted).findLatestAccessToken q =
      some (i.keptRecord persisted extra) := by
  apply findLatestAccessToken_kept_of_yields h hscopes
  intro key other hkey hmatch hnew
  exact absurd (eq_key_of_isMatch_kept h hplain hkey hmatch) hnew

/-- Only what was issued has its secret at the next access, if nothing had it before. -/
theorem eq_key_of_secret {persisted : Bool}
    (hnew : ∀ r ∈ c.store.accessTokens.values, r.secret ≠ i.response.accessToken)
    {key : String} {r : AccessTokenRecord}
    (hkey : ((c.modify (·.saveResponse i)).kept persisted).accessTokens.find? key = some r)
    (hsecret : r.secret = i.response.accessToken) : key = CacheRecord.key i.accessTokenRecord := by
  by_contra hne
  obtain ⟨w, hw, _, _, rfl⟩ := (exists_keptRecord c i persisted).2 key r hkey hne
  exact hnew w hw hsecret

/-- An account that is found is found at the next access, too. -/
theorem findAccount_kept_isSome {persisted : Bool} {home : String} {realm : Option String}
    {aliases : List String} (h : (c.store.findAccount home realm aliases).isSome = true) :
    ((c.kept persisted).findAccount home realm aliases).isSome = true := by
  obtain ⟨r, hr, hbelongs⟩ := Store.findAccount_isSome_iff.1 h
  obtain ⟨key, hkey⟩ := Dict.mem_values_iff.1 hr
  have hechoes : Bucket.Echoes id c.store.accounts (c.kept persisted).accounts :=
    echoes_accounts_kept
  obtain ⟨extra, hread⟩ := hechoes.find? hkey
  exact Store.findAccount_isSome_iff.2 ⟨_, Dict.mem_values_iff.2 ⟨key, hread⟩, hbelongs⟩

end TokenCache

end SilentAuth
