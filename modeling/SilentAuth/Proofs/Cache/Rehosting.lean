import Mathlib.Data.List.Forall2
import Mathlib.Data.Option.Basic
import SilentAuth.Plan
import SilentAuth.Proofs.Cache.Documents
import SilentAuth.Proofs.Cache.Lookup

/-!
# Records under another host of their instance

What is cached under one host of an instance can be cached under another one just as well: a record
is rehosted when its host is one of the names of the instance and is replaced by another of them,
while the key under which the record is stored stays. Lookups are given all the names, so they find
the rehosted records where they found the old ones, and what a store offers differs in nothing but
the host of the account that is handed back.

* `Rehosted`: a record as it was, or under another host of its instance.
* `Store.Rehosted`: stores whose records are rehosted, key by key.
* `Dict.values_of_find?`: dictionaries that are related key by key hold related values in order.
* `Store.Rehosted.offer_eq`: a store with rehosted records makes the same offer.
-/

namespace SilentAuth

variable {α β : Type}

/-! ### Records -/

/-- A kind of records that name the host from which they come. -/
class HostedRecord (α : Type) [CacheRecord α] where
  /-- The host from which a record comes. -/
  host : α → String
  /-- The record as if it came from another host. -/
  withHost : α → String → α
  host_withHost (r : α) (name : String) : host (withHost r name) = name
  withHost_host (r : α) : withHost r (host r) = r
  withHost_withHost (r : α) (name name' : String) :
    withHost (withHost r name) name' = withHost r name'
  extra_withHost (r : α) (name : String) :
    CacheRecord.extra (withHost r name) = CacheRecord.extra r
  withHost_withExtra (r : α) (extra : Json.Members) (name : String) :
    withHost (CacheRecord.withExtra r extra) name = CacheRecord.withExtra (withHost r name) extra
  host_withExtra (r : α) (extra : Json.Members) :
    host (CacheRecord.withExtra r extra) = host r

instance : HostedRecord AccessTokenRecord where
  host r := r.environment
  withHost r name := { r with environment := name }
  host_withHost _ _ := rfl
  withHost_host _ := rfl
  withHost_withHost _ _ _ := rfl
  extra_withHost _ _ := rfl
  withHost_withExtra _ _ _ := rfl
  host_withExtra _ _ := rfl

instance : HostedRecord RefreshTokenRecord where
  host r := r.environment
  withHost r name := { r with environment := name }
  host_withHost _ _ := rfl
  withHost_host _ := rfl
  withHost_withHost _ _ _ := rfl
  extra_withHost _ _ := rfl
  withHost_withExtra _ _ _ := rfl
  host_withExtra _ _ := rfl

instance : HostedRecord IdTokenRecord where
  host r := r.environment
  withHost r name := { r with environment := name }
  host_withHost _ _ := rfl
  withHost_host _ := rfl
  withHost_withHost _ _ _ := rfl
  extra_withHost _ _ := rfl
  withHost_withExtra _ _ _ := rfl
  host_withExtra _ _ := rfl

instance : HostedRecord AccountRecord where
  host r := r.environment
  withHost r name := { r with environment := name }
  host_withHost _ _ := rfl
  withHost_host _ := rfl
  withHost_withHost _ _ _ := rfl
  extra_withHost _ _ := rfl
  withHost_withExtra _ _ _ := rfl
  host_withExtra _ _ := rfl

instance : HostedRecord AppMetadataRecord where
  host r := r.environment
  withHost r name := { r with environment := name }
  host_withHost _ _ := rfl
  withHost_host _ := rfl
  withHost_withHost _ _ _ := rfl
  extra_withHost _ _ := rfl
  withHost_withExtra _ _ _ := rfl
  host_withExtra _ _ := rfl

open HostedRecord

/-- A record as it was, or, if its host is one of some names, under another one of these names. -/
inductive Rehosted [CacheRecord α] [HostedRecord α] (names : List String) : α → α → Prop
  | refl (r : α) : Rehosted names r r
  | move (r : α) {name : String} (hold : listed (host r) names = true)
      (hnew : listed name names = true) : Rehosted names r (withHost r name)

namespace Rehosted

variable [CacheRecord α] [HostedRecord α] {names : List String} {r r' : α}

/-- A rehosted record differs in its host at most, and either both hosts are among the names or
neither is. -/
theorem exists_withHost (h : Rehosted names r r') :
    ∃ name, r' = withHost r name ∧ listed name names = listed (host r) names := by
  cases h with
  | refl => exact ⟨host r, (withHost_host r).symm, rfl⟩
  | move hold hnew => exact ⟨_, rfl, hnew.trans hold.symm⟩

/-- Rehosting can be undone. -/
theorem symm (h : Rehosted names r r') : Rehosted names r' r := by
  cases h with
  | refl => exact .refl r
  | @move name hold hnew =>
    have hback : withHost (withHost r name) (host r) = r := by
      rw [withHost_withHost, withHost_host]
    have hhost : listed (host (withHost r name)) names = true := by
      rw [host_withHost]
      exact hnew
    have hmove := Rehosted.move (withHost r name) hhost hold
    rwa [hback] at hmove

/-- Records stay rehosted when both get the same unrecognized fields. -/
theorem withExtra (h : Rehosted names r r') (extra : Json.Members) :
    Rehosted names (CacheRecord.withExtra r extra) (CacheRecord.withExtra r' extra) := by
  cases h with
  | refl => exact .refl _
  | @move name hold hnew =>
    rw [← withHost_withExtra]
    apply Rehosted.move
    · rw [host_withExtra]
      exact hold
    · exact hnew

/-- Rehosted records have the same unrecognized fields. -/
theorem extra_eq (h : Rehosted names r r') : CacheRecord.extra r' = CacheRecord.extra r := by
  obtain ⟨name, rfl, _⟩ := h.exists_withHost
  exact extra_withHost r name

/-- Rehosted records are joined to rehosted ones. -/
theorem merge {old old' : α} (hold : Rehosted names old old') (h : Rehosted names r r') :
    Rehosted names (CacheRecord.merge old r) (CacheRecord.merge old' r') := by
  unfold CacheRecord.merge
  rw [hold.extra_eq, h.extra_eq]
  exact h.withExtra _

end Rehosted

/-! ### Dictionaries -/

/-- Pairs with the same keys in order are related if those with one key are. -/
theorem Assoc.forall₂_of_keys {rel : α → β → Prop} {entries : List (String × α)}
    {entries' : List (String × β)} (hkeys : entries.map Prod.fst = entries'.map Prod.fst)
    (h : ∀ e ∈ entries, ∀ e' ∈ entries', e.1 = e'.1 → rel e.2 e'.2) :
    List.Forall₂ (fun e e' => e.1 = e'.1 ∧ rel e.2 e'.2) entries entries' := by
  induction entries generalizing entries' with
  | nil =>
    rw [List.map_nil, eq_comm, List.map_eq_nil_iff] at hkeys
    subst hkeys
    exact .nil
  | cons e rest ih =>
    cases entries' with
    | nil => cases hkeys
    | cons e' rest' =>
      obtain ⟨hkey, hrest⟩ := List.cons.inj hkeys
      refine .cons ⟨hkey, h e List.mem_cons_self e' List.mem_cons_self hkey⟩ (ih hrest ?_)
      intro x hx x' hx'
      exact h x (List.mem_cons_of_mem _ hx) x' (List.mem_cons_of_mem _ hx')

namespace Dict

/-- Dictionaries that hold something under the same keys have the same keys. -/
theorem keys_eq_of_isSome {d : Dict α} {d' : Dict β}
    (h : ∀ key, (d.find? key).isSome = (d'.find? key).isSome) : d.keys = d'.keys := by
  have hkeys {γ : Type} (d : Dict γ) : (d.mapValues fun _ => ()).keys = d.keys := by
    rw [keys, keys, mapValues, List.map_map]
    rfl
  have hunit : d.mapValues (fun _ => ()) = d'.mapValues (fun _ => ()) := by
    apply eq_of_find?_eq
    intro key
    have hkey := h key
    rw [find?_mapValues, find?_mapValues]
    cases hd : d.find? key with
    | none => simp_all
    | some v =>
      rw [hd] at hkey
      obtain ⟨v', hv'⟩ := Option.isSome_iff_exists.1 hkey.symm
      rw [hv']
      rfl
  rw [← hkeys d, hunit, hkeys d']

/-- Dictionaries that are related key by key have related entries in order. -/
theorem entries_of_find? {rel : α → β → Prop} {d : Dict α} {d' : Dict β}
    (h : ∀ key, Option.Rel rel (d.find? key) (d'.find? key)) :
    List.Forall₂ (fun e e' => e.1 = e'.1 ∧ rel e.2 e'.2) d.entries d'.entries := by
  apply Assoc.forall₂_of_keys
  · apply keys_eq_of_isSome
    intro key
    have hkey := h key
    generalize d.find? key = found, d'.find? key = found' at hkey ⊢
    cases hkey <;> rfl
  · rintro ⟨key, v⟩ he ⟨_, v'⟩ he' rfl
    have hrel := h key
    rw [find?_eq_some_iff.2 he, find?_eq_some_iff.2 he'] at hrel
    cases hrel with
    | some hrel => exact hrel

/-- Dictionaries that are related key by key hold related values in order. -/
theorem values_of_find? {rel : α → β → Prop} {d : Dict α} {d' : Dict β}
    (h : ∀ key, Option.Rel rel (d.find? key) (d'.find? key)) :
    List.Forall₂ rel d.values d'.values := by
  unfold values
  rw [List.forall₂_map_left_iff, List.forall₂_map_right_iff]
  exact (entries_of_find? h).imp fun _ _ he => he.2

end Dict

/-! ### Buckets and stores -/

/-- Buckets whose records are rehosted, key by key. -/
def Bucket.Rehosted [CacheRecord α] [HostedRecord α] (names : List String)
    (bucket bucket' : Bucket α) : Prop :=
  ∀ key, Option.Rel (SilentAuth.Rehosted names) (bucket.find? key) (bucket'.find? key)

namespace Bucket.Rehosted

variable [CacheRecord α] [HostedRecord α] {names : List String} {bucket bucket' : Bucket α}

theorem refl (names : List String) (bucket : Bucket α) :
    Bucket.Rehosted names bucket bucket := by
  intro key
  cases bucket.find? key with
  | none => exact .none
  | some r => exact .some (.refl r)

/-- All records of a bucket can be moved to one host of the instance, if all of them are recorded
under its names. -/
theorem mapValues {name : String} (hnew : listed name names = true)
    (hold : ∀ r ∈ bucket.values, listed (host r) names = true) :
    Bucket.Rehosted names bucket (bucket.mapValues (withHost · name)) := by
  intro key
  rw [Dict.find?_mapValues]
  cases hfind : bucket.find? key with
  | none => exact .none
  | some r => exact .some (.move r (hold r (Dict.mem_values_iff.2 ⟨key, hfind⟩)) hnew)

theorem symm (h : Bucket.Rehosted names bucket bucket') :
    Bucket.Rehosted names bucket' bucket := by
  intro key
  have hkey := h key
  generalize bucket.find? key = found, bucket'.find? key = found' at hkey ⊢
  cases hkey with
  | some hr => exact .some hr.symm
  | none => exact .none

/-- Buckets are merged to rehosted ones. -/
theorem merge {old old' : Bucket α} (hold : Bucket.Rehosted names old old')
    (h : Bucket.Rehosted names bucket bucket') :
    Bucket.Rehosted names (old.merge bucket) (old'.merge bucket') := by
  intro key
  rw [Bucket.find?_merge, Bucket.find?_merge]
  have hkey := h key
  have hpresent := hold key
  generalize bucket.find? key = found, bucket'.find? key = found',
    old.find? key = present, old'.find? key = present' at hkey hpresent ⊢
  cases hkey with
  | none => exact .none
  | some hr =>
    cases hpresent with
    | none => exact .some hr
    | some ho => exact .some (ho.merge hr)

end Bucket.Rehosted

/-- Stores whose records are rehosted, key by key. -/
structure Store.Rehosted (names : List String) (s s' : Store) : Prop where
  accessTokens : s.accessTokens.Rehosted names s'.accessTokens
  refreshTokens : s.refreshTokens.Rehosted names s'.refreshTokens
  idTokens : s.idTokens.Rehosted names s'.idTokens
  accounts : s.accounts.Rehosted names s'.accounts
  appMetadata : s.appMetadata.Rehosted names s'.appMetadata
  other : s'.other = s.other

namespace Store.Rehosted

variable {names : List String} {s s' : Store}

theorem refl (names : List String) (s : Store) : Store.Rehosted names s s :=
  ⟨.refl _ _, .refl _ _, .refl _ _, .refl _ _, .refl _ _, rfl⟩

theorem symm (h : Store.Rehosted names s s') : Store.Rehosted names s' s :=
  ⟨h.accessTokens.symm, h.refreshTokens.symm, h.idTokens.symm, h.accounts.symm,
    h.appMetadata.symm, h.other.symm⟩

/-- Stores are merged to rehosted ones. -/
theorem merge {old old' : Store} (hold : Store.Rehosted names old old')
    (h : Store.Rehosted names s s') : Store.Rehosted names (old.merge s) (old'.merge s') where
  accessTokens := hold.accessTokens.merge h.accessTokens
  refreshTokens := hold.refreshTokens.merge h.refreshTokens
  idTokens := hold.idTokens.merge h.idTokens
  accounts := hold.accounts.merge h.accounts
  appMetadata := hold.appMetadata.merge h.appMetadata
  other := by
    show old'.other.merge s'.other = old.other.merge s.other
    rw [hold.other, h.other]

end Store.Rehosted

/-! ### Related lists -/

section

variable {rel : α → α → Prop} {records records' : List α} {test : α → Bool}

/-- A test that does not tell related records apart keeps related ones. -/
theorem forall₂_filter (h : List.Forall₂ rel records records')
    (htest : ∀ r r', rel r r' → test r' = test r) :
    List.Forall₂ rel (records.filter test) (records'.filter test) := by
  apply List.rel_filter _ h
  intro r r' hr
  show test r = true ↔ test r' = true
  rw [htest r r' hr]

/-- The first of related records are related. -/
theorem rel_head? (h : List.Forall₂ rel records records') :
    Option.Rel rel records.head? records'.head? := by
  cases h with
  | nil => exact .none
  | cons hr _ => exact .some hr

/-- A test that does not tell related records apart finds related ones. -/
theorem rel_find? (h : List.Forall₂ rel records records')
    (htest : ∀ r r', rel r r' → test r' = test r) :
    Option.Rel rel (records.find? test) (records'.find? test) := by
  rw [← List.head?_filter, ← List.head?_filter]
  exact rel_head? (forall₂_filter h htest)

/-- What is the same for related records is found in the same place. -/
theorem findSome?_eq_of_forall₂ {f : α → Option β} (h : List.Forall₂ rel records records')
    (hf : ∀ r r', rel r r' → f r' = f r) : records'.findSome? f = records.findSome? f := by
  induction h with
  | nil => rfl
  | cons hr _ ih => rw [List.findSome?_cons, List.findSome?_cons, hf _ _ hr, ih]

/-- The first that is there of two that are related. -/
theorem rel_or {x x' y y' : Option α} (hx : Option.Rel rel x x') (hy : Option.Rel rel y y') :
    Option.Rel rel (x.or y) (x'.or y') := by
  cases hx with
  | some hr => exact .some hr
  | none => exact hy

end

/-! ### Lookups -/

namespace Rehosted

variable {names : List String}

/-- A query for records under the names of an instance does not tell them from rehosted ones. -/
theorem isMatch {q : AccessTokenQuery} {r r' : AccessTokenRecord} (h : Rehosted q.aliases r r') :
    q.isMatch r' = q.isMatch r := by
  obtain ⟨name, rfl, hname⟩ := h.exists_withHost
  have hhost : listed name q.aliases = listed r.environment q.aliases := hname
  show (_ && listed name q.aliases && _ && _ && _) = _
  rw [hhost]
  rfl

/-- The longest-lived of rehosted access tokens is rehosted. -/
theorem longestLived {records records' : List AccessTokenRecord}
    (h : List.Forall₂ (Rehosted names) records records') :
    Option.Rel (Rehosted names) (longestLived records) (longestLived records') := by
  have hexpires : ∀ r r' : AccessTokenRecord, Rehosted names r r' → r'.expiresOn = r.expiresOn := by
    intro r r' hr
    obtain ⟨name, rfl, _⟩ := hr.exists_withHost
    rfl
  refine List.rel_foldl (P := Option.Rel (Rehosted names)) ?_ .none h
  intro best best' hbest r r' hr
  cases hbest with
  | none => exact .some hr
  | @some b b' hb =>
    simp only [hexpires r r' hr, hexpires b b' hb]
    split
    · exact .some hb
    · exact .some hr

end Rehosted

/-- Decisions do not look at hosts. -/
theorem Decision.of_withHost (r : AccessTokenRecord) (name : String) (force : Bool)
    (now : UnixTime) (buffer : Span) :
    Decision.of (some (withHost r name)) force now buffer =
      match Decision.of (some r) force now buffer with
      | .cacheHit r => .cacheHit (withHost r name)
      | .needsRefresh reason => .needsRefresh reason := by
  have hsecret : (withHost r name).secret = r.secret := rfl
  have hvalid : ∀ t, (withHost r name).validAt t = r.validAt t := fun _ => rfl
  have hdue : (withHost r name).refreshDueAt now = r.refreshDueAt now := rfl
  simp only [Decision.of, hsecret, hvalid, hdue]
  split_ifs <;> rfl

namespace Store.Rehosted

variable {names : List String} {s s' : Store}

/-- The longest-lived match is rehosted. -/
theorem findLatestAccessToken {q : AccessTokenQuery} (h : Store.Rehosted q.aliases s s') :
    Option.Rel (SilentAuth.Rehosted q.aliases) (s.findLatestAccessToken q)
      (s'.findLatestAccessToken q) := by
  apply Rehosted.longestLived
  apply forall₂_filter (Dict.values_of_find? h.accessTokens)
  exact fun _ _ hr => hr.isMatch

/-- The ID token that is found is rehosted. -/
theorem findIdToken (h : Store.Rehosted names s s') (home realm clientId : String) :
    Option.Rel (SilentAuth.Rehosted names) (s.findIdToken home realm clientId names)
      (s'.findIdToken home realm clientId names) := by
  apply rel_find? (Dict.values_of_find? h.idTokens)
  intro r r' hr
  obtain ⟨name, rfl, hname⟩ := hr.exists_withHost
  have hhost : listed name names = listed r.environment names := hname
  show (_ && listed name names && _ && _) = _
  rw [hhost]
  rfl

/-- The record of the account is rehosted. -/
theorem findAccount (h : Store.Rehosted names s s') (home : String) (realm : Option String) :
    Option.Rel (SilentAuth.Rehosted names) (s.findAccount home realm names)
      (s'.findAccount home realm names) := by
  have hrecords : List.Forall₂ (SilentAuth.Rehosted names) (s.accountRecords home names)
      (s'.accountRecords home names) := by
    apply forall₂_filter (Dict.values_of_find? h.accounts)
    intro r r' hr
    obtain ⟨name, rfl, hname⟩ := hr.exists_withHost
    have hhost : listed name names = listed r.environment names := hname
    show (_ && listed name names) = _
    rw [hhost]
    rfl
  apply rel_or _ (rel_head? hrecords)
  cases realm with
  | none => exact .none
  | some realm =>
    apply rel_find? hrecords
    intro r r' hr
    obtain ⟨name, rfl, _⟩ := hr.exists_withHost
    rfl

/-- The family of a client is the same. -/
theorem familyIdFor (h : Store.Rehosted names s s') (clientId : String) :
    s'.familyIdFor clientId names = s.familyIdFor clientId names := by
  let known (r : AppMetadataRecord) : Bool :=
    sameText r.clientId clientId && listed r.environment names
  have hrecords : List.Forall₂ (SilentAuth.Rehosted names) (s.appMetadata.values.filter known)
      (s'.appMetadata.values.filter known) := by
    apply forall₂_filter (Dict.values_of_find? h.appMetadata)
    intro r r' hr
    obtain ⟨name, rfl, hname⟩ := hr.exists_withHost
    have hhost : listed name names = listed r.environment names := hname
    show (_ && listed name names) = _
    rw [hhost]
    rfl
  apply findSome?_eq_of_forall₂ hrecords
  intro r r' hr
  obtain ⟨name, rfl, _⟩ := hr.exists_withHost
  rfl

/-- The refresh token that is redeemed is rehosted. -/
theorem selectRefreshToken (h : Store.Rehosted names s s') (home clientId : String) :
    Option.Rel (SilentAuth.Rehosted names) (s.selectRefreshToken home clientId names)
      (s'.selectRefreshToken home clientId names) := by
  have hfind {wanted : RefreshTokenRecord → Bool}
      (hwanted : ∀ r name, wanted (withHost r name) = wanted r) :
      Option.Rel (SilentAuth.Rehosted names)
        (s.refreshTokens.values.find? fun r =>
          belongs home names r.homeAccountId r.environment && wanted r)
        (s'.refreshTokens.values.find? fun r =>
          belongs home names r.homeAccountId r.environment && wanted r) := by
    apply rel_find? (Dict.values_of_find? h.refreshTokens)
    intro r r' hr
    obtain ⟨name, rfl, hname⟩ := hr.exists_withHost
    have hhost : listed name names = listed r.environment names := hname
    rw [hwanted]
    show (_ && listed name names && _) = _
    rw [hhost]
    rfl
  have hown : Option.Rel (SilentAuth.Rehosted names) (s.findRefreshToken home clientId names)
      (s'.findRefreshToken home clientId names) := hfind fun _ _ => rfl
  unfold Store.selectRefreshToken
  rw [h.familyIdFor]
  cases s.familyIdFor clientId names with
  | none => exact rel_or hown (hfind fun _ _ => rfl)
  | some family => exact rel_or (hfind fun _ _ => rfl) hown

end Store.Rehosted

/-! ### Offers -/

/-- An account without the host through which it signed in. -/
def Account.hostless (account : Account) : Account := { account with environment := "" }

/-- A result without the host of its account. -/
def AuthResult.hostless (result : AuthResult) : AuthResult :=
  { result with account := result.account.map Account.hostless }

/-- An offer without the host of the account that it may hand back. -/
def Offer.hostless : Offer → Offer
  | .hit result => .hit result.hostless
  | .refresh plan => .refresh { plan with cached := plan.cached.map AuthResult.hostless }

namespace Store.Rehosted

variable {s s' : Store}

/-- The same refresh is planned. -/
theorem planRefresh {q : AccountQuery} (h : Store.Rehosted q.aliases s s')
    (reason : RefreshReason) {cached cached' : Option AuthResult}
    (hcached : cached'.map AuthResult.hostless = cached.map AuthResult.hostless) :
    ((s'.planRefresh q reason cached').map Offer.refresh).map Offer.hostless =
      ((s.planRefresh q reason cached).map Offer.refresh).map Offer.hostless := by
  have hselected := h.selectRefreshToken q.account.homeAccountId q.clientId
  unfold Store.planRefresh
  generalize s.selectRefreshToken _ _ _ = selected, s'.selectRefreshToken _ _ _ = selected'
    at hselected ⊢
  cases hselected with
  | none => rfl
  | some hr =>
    obtain ⟨name, rfl, _⟩ := hr.exists_withHost
    cases hsoft : reason.isSoft with
    | false => rfl
    | true =>
      simp only [if_true, Except.map, Offer.hostless, hcached]
      rfl

/-- **Rehosted stores make the same offers.** The records of a store are under other hosts of the
instance, and the account names another host: the offer is the same, but for the host of the account
that is handed back. -/
theorem offer_eq {q : AccountQuery} (h : Store.Rehosted q.aliases s s') (name : String) :
    (s'.offer { q with account := { q.account with environment := name } }).map Offer.hostless =
      (s.offer q).map Offer.hostless := by
  have hquery : s'.offer { q with account := { q.account with environment := name } } =
      s'.offer q := rfl
  rw [hquery]
  have haccount := h.findAccount q.account.homeAccountId (some q.accountTenant)
  have htoken : Option.Rel (SilentAuth.Rehosted q.aliases)
      (s.findLatestAccessToken q.accessTokenQuery)
      (s'.findLatestAccessToken q.accessTokenQuery) :=
    Store.Rehosted.findLatestAccessToken (q := q.accessTokenQuery) h
  unfold Store.offer accountFor
  generalize s.findAccount _ _ _ = found, s'.findAccount _ _ _ = found' at haccount ⊢
  cases haccount with
  | none => rfl
  | @some record _ hr =>
    obtain ⟨host', rfl, _⟩ := hr.exists_withHost
    -- the ID token is looked for in the tenant of the record, which stays
    have hid := h.findIdToken q.account.homeAccountId record.realm q.clientId
    have hidToken :
        (s'.findIdToken q.account.homeAccountId record.realm q.clientId q.aliases).map
            IdTokenRecord.secret =
          (s.findIdToken q.account.homeAccountId record.realm q.clientId q.aliases).map
            IdTokenRecord.secret := by
      generalize s.findIdToken _ _ _ _ = idToken, s'.findIdToken _ _ _ _ = idToken' at hid ⊢
      cases hid with
      | none => rfl
      | some hr =>
        obtain ⟨name, rfl, _⟩ := hr.exists_withHost
        rfl
    have htenant : (Account.ofRecord (withHost record host')).tenantId = record.realm := rfl
    have htenant' : (Account.ofRecord record).tenantId = record.realm := rfl
    simp only [htenant, htenant', hidToken]
    generalize s.findLatestAccessToken _ = token, s'.findLatestAccessToken _ = token' at htoken ⊢
    cases htoken with
    | none => exact h.planRefresh _ rfl
    | @some r _ hr =>
      obtain ⟨host'', rfl, _⟩ := hr.exists_withHost
      rw [Decision.of_withHost]
      cases Decision.of (some r) q.forceRefresh q.now q.buffer with
      | cacheHit r => rfl
      | needsRefresh reason => exact h.planRefresh _ rfl

end Store.Rehosted

end SilentAuth
