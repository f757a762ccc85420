import SilentAuth.Proofs.Cache.Bare
import SilentAuth.Proofs.Cache.Entries
import SilentAuth.Proofs.Cache.Saving

/-!
# What saving a response writes and drops

Saving a response writes at most one record of each kind, under the key that the record derives. Of
the records under other keys it drops those that derive the same key, and the access tokens that the
new one replaces; accounts are not dropped, since the account of the tokens is joined with the record
under its key.

* `Issued.written?`: the record of a kind that is written.
* `Issued.Drops`: the records that are dropped.
* `Store.entryAt?_saveResponse_self`: what stands where a record was written.
* `Store.entryAt?_saveResponse_of_ne`: what stands everywhere else.
-/

namespace SilentAuth

/-! ### Records of any kind -/

namespace Entry

/-- The kind of a record. -/
def kind : Entry → RecordKind
  | accessToken _ => .accessToken
  | refreshToken _ => .refreshToken
  | idToken _ => .idToken
  | account _ => .account
  | appMetadata _ => .appMetadata

/-- The key that a record derives. -/
def key : Entry → String
  | accessToken r => CacheRecord.key r
  | refreshToken r => CacheRecord.key r
  | idToken r => CacheRecord.key r
  | account r => CacheRecord.key r
  | appMetadata r => CacheRecord.key r

/-- The recognized fields of a record. -/
def bare : Entry → Entry
  | accessToken r => accessToken (CacheRecord.bare r)
  | refreshToken r => refreshToken (CacheRecord.bare r)
  | idToken r => idToken (CacheRecord.bare r)
  | account r => account (CacheRecord.bare r)
  | appMetadata r => appMetadata (CacheRecord.bare r)

end Entry

/-- The records of a kind are of that kind. -/
theorem Store.kind_of_entryAt? {s : Store} {kind : RecordKind} {key : String} {e : Entry}
    (h : s.entryAt? kind key = some e) : e.kind = kind := by
  cases kind <;> obtain ⟨r, _, rfl⟩ := Option.map_eq_some_iff.1 h <;> rfl

/-! ### Records of a response -/

namespace Issued

/-- The record of a kind that is written for a response, if there is one. -/
def written? (i : Issued) : RecordKind → Option Entry
  | .accessToken => some (.accessToken i.accessTokenRecord)
  | .refreshToken => i.response.refreshToken.map fun secret =>
    .refreshToken (i.refreshTokenRecord secret)
  | .idToken => i.response.idToken.map fun secret => .idToken (i.idTokenRecord secret)
  | .account => if i.homeAccountId = "" then none else some (.account i.accountRecord)
  | .appMetadata => some (.appMetadata i.appMetadataRecord)

/-- A record is dropped if the new access token replaces it, or if it derives the key of the record
of its kind that is written; an account is not dropped. -/
inductive Drops (i : Issued) : Entry → Prop where
  | replaced {r : AccessTokenRecord} (h : i.replaces r = true) : Drops i (.accessToken r)
  | sameKey {e w : Entry} (hkind : e.kind ≠ .account) (hw : i.written? e.kind = some w)
      (hkey : e.key = w.key) : Drops i e

variable {i : Issued} {kind : RecordKind} {w : Entry}

/-- The account is written if it is known. -/
theorem written?_account (h : i.homeAccountId ≠ "") :
    i.written? .account = some (.account i.accountRecord) := by
  rw [written?, if_neg h]

/-- The record that is written for a kind is of that kind. -/
theorem kind_of_written? (h : i.written? kind = some w) : w.kind = kind := by
  cases kind with
  | accessToken =>
    cases h
    rfl
  | refreshToken =>
    obtain ⟨_, _, rfl⟩ := Option.map_eq_some_iff.1 h
    rfl
  | idToken =>
    obtain ⟨_, _, rfl⟩ := Option.map_eq_some_iff.1 h
    rfl
  | account =>
    obtain ⟨_, h⟩ := Option.ite_none_left_eq_some.1 h
    cases h
    rfl
  | appMetadata =>
    cases h
    rfl

/-- A record of a kind that is not written stays. -/
theorem not_drops_of_none {e : Entry} (h : i.written? e.kind = none) : ¬i.Drops e := by
  rintro (_ | ⟨_, hw, _⟩)
  · cases h
  · rw [h] at hw
    cases hw

/-- An access token is dropped if it is replaced, or if it derives the key of the new one. -/
theorem drops_accessToken_iff {r : AccessTokenRecord} :
    i.Drops (.accessToken r) ↔
      i.replaces r = true ∨ CacheRecord.key r = CacheRecord.key i.accessTokenRecord := by
  constructor
  · rintro (hreplaced | ⟨_, hw, hkey⟩)
    · exact .inl hreplaced
    · cases hw
      exact .inr hkey
  · rintro (hreplaced | hkey)
    · exact .replaced hreplaced
    · exact .sameKey nofun rfl hkey

/-- Another record is dropped exactly if it derives the key of the one that is written. -/
theorem drops_iff_of_written? {e : Entry} (htoken : e.kind ≠ .accessToken)
    (haccount : e.kind ≠ .account) (hw : i.written? e.kind = some w) :
    i.Drops e ↔ e.key = w.key := by
  constructor
  · rintro (_ | ⟨_, hw', hkey⟩)
    · exact absurd rfl htoken
    · rw [hw] at hw'
      cases hw'
      exact hkey
  · exact .sameKey haccount hw

/-- An account stays. -/
theorem not_drops_account {r : AccountRecord} : ¬i.Drops (.account r) := by
  rintro (_ | ⟨hkind, _, _⟩)
  exact hkind rfl

end Issued

/-! ### What is left -/

namespace Bucket

variable {α : Type} [CacheRecord α]

/-- Where a record was stored, it stands. -/
theorem entry_put_self (entry : α → Entry) (bucket : Bucket α) (record : α) :
    ((bucket.put record).find? (CacheRecord.key record)).map entry = some (entry record) := by
  rw [find?_put_self, Option.map_some]

/-- Everywhere else the records stand that stood there, except those that derive the same key. -/
theorem entry_put_of_ne (entry : α → Entry) (hentry : ∀ r, (entry r).key = CacheRecord.key r)
    {bucket : Bucket α} {record : α} {stored : String} {e : Entry}
    (h : stored ≠ (entry record).key) :
    ((bucket.put record).find? stored).map entry = some e ↔
      (bucket.find? stored).map entry = some e ∧ e.key ≠ (entry record).key := by
  rw [hentry] at h ⊢
  rw [find?_put_of_ne bucket h]
  constructor
  · intro hput
    obtain ⟨r, hr, rfl⟩ := Option.map_eq_some_iff.1 hput
    obtain ⟨hfound, hkey⟩ := Option.filter_eq_some_iff.1 hr
    rw [hfound, hentry]
    exact ⟨rfl, bne_iff_ne.1 hkey⟩
  · rintro ⟨hfound, hkey⟩
    obtain ⟨r, hr, rfl⟩ := Option.map_eq_some_iff.1 hfound
    rw [hentry] at hkey
    rw [hr, Option.filter_some, if_pos (bne_iff_ne.2 hkey), Option.map_some]

end Bucket

namespace Store

variable {s : Store} {i : Issued} {kind : RecordKind} {key : String} {w e : Entry}

/-- Where a record was written that is no account, it stands. -/
theorem entryAt?_saveResponse_written (hw : i.written? kind = some w) (hkind : kind ≠ .account) :
    (s.saveResponse i).entryAt? kind w.key = some w := by
  rw [saveResponse_eq]
  cases kind with
  | accessToken =>
    cases hw
    exact Bucket.entry_put_self .accessToken _ _
  | refreshToken =>
    obtain ⟨secret, hsecret, rfl⟩ := Option.map_eq_some_iff.1 hw
    simp only [hsecret, Option.elim_some]
    exact Bucket.entry_put_self .refreshToken _ _
  | idToken =>
    obtain ⟨secret, hsecret, rfl⟩ := Option.map_eq_some_iff.1 hw
    simp only [hsecret, Option.elim_some]
    exact Bucket.entry_put_self .idToken _ _
  | account => exact absurd rfl hkind
  | appMetadata =>
    cases hw
    exact Bucket.entry_put_self .appMetadata _ _

/-- Where a record was written, one with its recognized fields stands. -/
theorem entryAt?_saveResponse_self (hw : i.written? kind = some w) :
    ∃ e, (s.saveResponse i).entryAt? kind w.key = some e ∧ e.bare = w.bare := by
  by_cases hkind : kind = .account
  · subst hkind
    obtain ⟨hhome, hw⟩ := Option.ite_none_left_eq_some.1 hw
    cases hw
    rw [saveResponse_eq]
    simp only [if_neg hhome]
    refine ⟨_, congrArg (Option.map _) (Dict.find?_insert_self _ _ _), ?_⟩
    cases s.accounts.find? (CacheRecord.key i.accountRecord) with
    | none => rfl
    | some old => exact congrArg Entry.account (CacheRecord.bare_merge old i.accountRecord)
  · exact ⟨w, entryAt?_saveResponse_written hw hkind, rfl⟩

/-- The other access tokens stay that the new one does not replace, unless they derive its key. -/
theorem entryAt?_accessToken_saveResponse_of_ne
    (h : key ≠ (Entry.accessToken i.accessTokenRecord).key) :
    (s.saveResponse i).entryAt? .accessToken key = some e ↔
      s.entryAt? .accessToken key = some e ∧ ¬i.Drops e := by
  rw [saveResponse_eq]
  refine (Bucket.entry_put_of_ne .accessToken (fun _ => rfl) h).trans ?_
  constructor
  · rintro ⟨hkept, hne⟩
    obtain ⟨r, hr, rfl⟩ := Option.map_eq_some_iff.1 hkept
    obtain ⟨hstored, hreplaced⟩ := Dict.find?_filter_eq_some_iff.1 hr
    refine ⟨congrArg (Option.map _) hstored, ?_⟩
    rw [Issued.drops_accessToken_iff]
    rintro (hreplaces | hsame)
    · rw [hreplaces] at hreplaced
      cases hreplaced
    · exact hne hsame
  · rintro ⟨hstored, hdrops⟩
    obtain ⟨r, hr, rfl⟩ := Option.map_eq_some_iff.1 hstored
    rw [Issued.drops_accessToken_iff, not_or, Bool.not_eq_true] at hdrops
    obtain ⟨hreplaces, hne⟩ := hdrops
    refine ⟨congrArg (Option.map _) (Dict.find?_filter_eq_some_iff.2 ⟨hr, ?_⟩), hne⟩
    rw [hreplaces]
    rfl

/-- Everywhere else the records stand that stood there, except those that are dropped. -/
theorem entryAt?_saveResponse_of_ne (h : ∀ w, i.written? kind = some w → key ≠ w.key) :
    (s.saveResponse i).entryAt? kind key = some e ↔
      s.entryAt? kind key = some e ∧ ¬i.Drops e := by
  -- a bucket to which nothing is written stays, and so does every record in it
  have hunwritten (hw : i.written? kind = none) :
      s.entryAt? kind key = some e ↔ s.entryAt? kind key = some e ∧ ¬i.Drops e := by
    refine (and_iff_left_of_imp ?_).symm
    intro hstored
    exact Issued.not_drops_of_none (kind_of_entryAt? hstored ▸ hw)
  have hwritten {w : Entry} (htoken : kind ≠ .accessToken) (haccount : kind ≠ .account)
      (hw : i.written? kind = some w) :
      s.entryAt? kind key = some e ∧ e.key ≠ w.key ↔
        s.entryAt? kind key = some e ∧ ¬i.Drops e := by
    refine and_congr_right ?_
    intro hstored
    obtain rfl := kind_of_entryAt? hstored
    rw [Issued.drops_iff_of_written? htoken haccount hw]
  cases kind with
  | accessToken =>
    exact entryAt?_accessToken_saveResponse_of_ne (h (.accessToken i.accessTokenRecord) rfl)
  | refreshToken =>
    rw [saveResponse_eq]
    cases hresponse : i.response.refreshToken with
    | none => exact hunwritten (by rw [Issued.written?, hresponse, Option.map_none])
    | some secret =>
      have hw : i.written? .refreshToken = some (.refreshToken (i.refreshTokenRecord secret)) := by
        rw [Issued.written?, hresponse, Option.map_some]
      have hkey := h _ hw
      rw [← hwritten (by decide) (by decide) hw]
      exact Bucket.entry_put_of_ne .refreshToken (fun _ => rfl) hkey
  | idToken =>
    rw [saveResponse_eq]
    cases hresponse : i.response.idToken with
    | none => exact hunwritten (by rw [Issued.written?, hresponse, Option.map_none])
    | some secret =>
      have hw : i.written? .idToken = some (.idToken (i.idTokenRecord secret)) := by
        rw [Issued.written?, hresponse, Option.map_some]
      have hkey := h _ hw
      rw [← hwritten (by decide) (by decide) hw]
      exact Bucket.entry_put_of_ne .idToken (fun _ => rfl) hkey
  | account =>
    rw [saveResponse_eq]
    by_cases hhome : i.homeAccountId = ""
    · have hw : i.written? .account = none := if_pos hhome
      rw [← hunwritten hw, if_pos hhome]
      rfl
    · have hw := Issued.written?_account hhome
      have hkey : key ≠ CacheRecord.key i.accountRecord := h (.account i.accountRecord) hw
      have hstay (hstored : s.entryAt? .account key = some e) : ¬i.Drops e := by
        obtain ⟨r, _, rfl⟩ := Option.map_eq_some_iff.1 hstored
        exact Issued.not_drops_account
      rw [if_neg hhome, and_iff_left_of_imp hstay]
      simp only [entryAt?, Bucket.upsert, Dict.find?_insert_of_ne _ hkey]
  | appMetadata =>
    have hw : i.written? .appMetadata = some (.appMetadata i.appMetadataRecord) := rfl
    have hkey := h _ hw
    rw [saveResponse_eq, ← hwritten (by decide) (by decide) hw]
    exact Bucket.entry_put_of_ne .appMetadata (fun _ => rfl) hkey

end Store

/-! ### A response -/

namespace Issued.Sample

/-- The authority of a tenant on a host. -/
def authority (host tenant : String) : Authority :=
  let url : Url :=
    ⟨"https".toList, [], [], some (.domain host.toList), none, .segments [tenant.toList], none, none⟩
  ⟨.aad, host, tenant, none, url, url, url⟩

/-- A response with an access token and a refresh token for an account on a host. -/
def response (homeAccountId host : String) : Issued where
  context := {
    authority := authority host "utid"
    environment := host
    aliases := [host]
    clientId := "client"
    requestedScopes := .ofText "read"
    account := some ⟨homeAccountId, host, "utid", none, none⟩
    now := ⟨1000⟩ }
  response := ⟨"at", some "new", none, ⟨9000⟩, none, none, .empty, none, none⟩

end Issued.Sample

end SilentAuth
