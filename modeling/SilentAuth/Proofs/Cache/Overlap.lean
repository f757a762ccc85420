import SilentAuth.Proofs.Cache.Written
import SilentAuth.Proofs.Discovery.Registration
import SilentAuth.Proofs.Scope.Coverage

/-!
# Access tokens whose scopes overlap

A new access token replaces those of the same user, client and tenant, under some of the hosts of its
instance, whose scopes overlap with its own. If the hosts are partitioned into instances, this is
enough to keep overlapping tokens out of a store that starts empty: a query that asks for something
has at most one match, and which one it is does not depend on expiry or on the order of keys.

* `InstanceHosts`: host lists that name the instances of a partition.
* `AccessTokenRecord.Overlaps`: which access tokens could answer one query.
* `Issued.replaces_of_overlaps`: a new access token replaces those that overlap with it.
* `Store.Grown`: the stores that come about by saving responses and removing accounts.
* `Store.Grown.nonoverlapping`: in such a store no two access tokens overlap.
-/

namespace SilentAuth

/-! ### Instances -/

/-- Lists of hosts name the instances of a partition: lists that have a host in common name the same
hosts, up to case. -/
def InstanceHosts (lists : List String → Prop) : Prop :=
  ∀ hosts hosts', lists hosts → lists hosts' →
    ∀ host, listed host hosts = true → listed host hosts' = true →
      ∀ other, listed other hosts = listed other hosts'

/-- Two hosts belong to one instance. -/
def SameInstance (lists : List String → Prop) (host host' : String) : Prop :=
  ∃ hosts, lists hosts ∧ listed host hosts = true ∧ listed host' hosts = true

variable {lists : List String → Prop}

theorem SameInstance.symm {host host' : String} (h : SameInstance lists host host') :
    SameInstance lists host' host := by
  obtain ⟨hosts, hlist, hhost, hhost'⟩ := h
  exact ⟨hosts, hlist, hhost', hhost⟩

/-- A list that names one host of an instance names all of them. -/
theorem InstanceHosts.listed_of_sameInstance (h : InstanceHosts lists) {hosts : List String}
    (hlist : lists hosts) {host other : String} (hhost : listed host hosts = true)
    (hsame : SameInstance lists other host) : listed other hosts = true := by
  obtain ⟨hosts', hlist', hother, hhost'⟩ := hsame
  rw [h hosts hosts' hlist hlist' host hhost hhost']
  exact hother

/-! ### Overlapping tokens -/

/-- Two access tokens of one user, client and tenant, recorded under hosts of one instance, grant a
scope in common. -/
structure AccessTokenRecord.Overlaps (lists : List String → Prop) (r r' : AccessTokenRecord) :
    Prop where
  home : sameText r.homeAccountId r'.homeAccountId = true
  client : sameText r.clientId r'.clientId = true
  realm : sameText r.realm r'.realm = true
  environment : SameInstance lists r.environment r'.environment
  granted : r.target.intersects r'.target = true

namespace AccessTokenRecord.Overlaps

variable {r r' : AccessTokenRecord}

theorem symm (h : r.Overlaps lists r') : r'.Overlaps lists r where
  home := sameText_comm _ _ ▸ h.home
  client := sameText_comm _ _ ▸ h.client
  realm := sameText_comm _ _ ▸ h.realm
  environment := h.environment.symm
  granted := Scopes.intersects_comm _ _ ▸ h.granted

/-- Access tokens that answer one query overlap, if the query asks for a scope that is not reserved
and all its hosts belong to one instance. -/
theorem of_isMatch {q : AccessTokenQuery} {hosts : List String} (hlist : lists hosts)
    (hwithin : ∀ host, listed host q.aliases = true → listed host hosts = true)
    (hasked : ∃ name ∈ q.scopes.names, Scopes.isReserved name = false)
    (hr : q.isMatch r = true) (hr' : q.isMatch r' = true) : r.Overlaps lists r' := by
  obtain ⟨hhome, henvironment, hrealm, hclient, hgranted⟩ := AccessTokenQuery.isMatch_iff.1 hr
  obtain ⟨hhome', henvironment', hrealm', hclient', hgranted'⟩ :=
    AccessTokenQuery.isMatch_iff.1 hr'
  obtain ⟨name, hname, hreserved⟩ := hasked
  rw [sameText_iff] at hhome hhome' hrealm hrealm' hclient hclient'
  exact {
    home := sameText_iff.2 (hhome.trans hhome'.symm)
    client := sameText_iff.2 (hclient.trans hclient'.symm)
    realm := sameText_iff.2 (hrealm.trans hrealm'.symm)
    environment := ⟨hosts, hlist, hwithin _ henvironment, hwithin _ henvironment'⟩
    granted := Scopes.intersects_of_listed (hgranted name hname hreserved)
      (hgranted' name hname hreserved) }

end AccessTokenRecord.Overlaps

/-- A new access token replaces every one that overlaps with it, if it is recorded under a host of
its instance. -/
theorem Issued.replaces_of_overlaps {i : Issued} {r : AccessTokenRecord}
    (hlists : InstanceHosts lists) (hlist : lists i.context.aliases)
    (henvironment : listed i.context.environment i.context.aliases = true)
    (h : r.Overlaps lists i.accessTokenRecord) : i.replaces r = true := by
  have hfolded : listed i.environment i.context.aliases = true := by
    rw [listed_congr i.sameText_environment]
    exact henvironment
  have hlisted : listed r.environment i.context.aliases = true :=
    hlists.listed_of_sameInstance hlist hfolded h.environment
  have hhome : sameText r.homeAccountId i.homeAccountId = true := h.home
  have hclient : sameText r.clientId i.context.clientId = true := h.client
  have hrealm : sameText r.realm i.tokenRealm = true := h.realm
  have hgranted : r.target.intersects i.target = true := h.granted
  unfold Issued.replaces
  rw [hhome, hlisted, hrealm, hclient, hgranted, Bool.or_true]
  rfl

/-! ### Stores that come about -/

namespace Store

/-- The stores that come about from the empty one by saving responses and removing accounts, where
every response is recorded under a host of its instance. -/
inductive Grown (lists : List String → Prop) : Store → Prop
  | empty : Grown lists .empty
  | save {s : Store} (i : Issued) : Grown lists s → lists i.context.aliases →
    listed i.context.environment i.context.aliases = true → Grown lists (s.saveResponse i)
  | remove {s : Store} (homeAccountId : String) (aliases : List String) : Grown lists s →
    Grown lists (s.removeAccount homeAccountId aliases).2

/-- No two access tokens of a store, under different keys, overlap. -/
def Nonoverlapping (lists : List String → Prop) (s : Store) : Prop :=
  ∀ key key' r r', s.accessTokens.find? key = some r → s.accessTokens.find? key' = some r' →
    r.Overlaps lists r' → key = key'

variable {s : Store}

/-- Saving a response keeps the access tokens apart: the new one replaces those that overlap with
it, and the others were apart before. -/
theorem Nonoverlapping.saveResponse (h : s.Nonoverlapping lists) (hlists : InstanceHosts lists)
    {i : Issued} (hlist : lists i.context.aliases)
    (henvironment : listed i.context.environment i.context.aliases = true) :
    (s.saveResponse i).Nonoverlapping lists := by
  have hnew : ∀ key r, (s.saveResponse i).accessTokens.find? key = some r →
      r.Overlaps lists i.accessTokenRecord → key = CacheRecord.key i.accessTokenRecord := by
    intro key r hr hoverlaps
    by_contra hkey
    obtain ⟨_, hkept⟩ := find?_accessTokens_of_saveResponse hr hkey
    rw [Issued.replaces_of_overlaps hlists hlist henvironment hoverlaps] at hkept
    cases hkept
  intro key key' r r' hr hr' hoverlaps
  by_cases hkey : key = CacheRecord.key i.accessTokenRecord
  · subst hkey
    rw [find?_accessTokens_saveResponse_self] at hr
    cases hr
    exact (hnew key' r' hr' hoverlaps.symm).symm
  by_cases hkey' : key' = CacheRecord.key i.accessTokenRecord
  · subst hkey'
    rw [find?_accessTokens_saveResponse_self] at hr'
    cases hr'
    exact hnew key r hr hoverlaps
  · obtain ⟨hstored, _⟩ := find?_accessTokens_of_saveResponse hr hkey
    obtain ⟨hstored', _⟩ := find?_accessTokens_of_saveResponse hr' hkey'
    exact h key key' r r' hstored hstored' hoverlaps

/-- Removing an account leaves no access token that was not there. -/
theorem Nonoverlapping.removeAccount (h : s.Nonoverlapping lists) (homeAccountId : String)
    (aliases : List String) : (s.removeAccount homeAccountId aliases).2.Nonoverlapping lists := by
  intro key key' r r' hr hr' hoverlaps
  have hstored := (Dict.find?_filter_eq_some_iff.1 hr).1
  have hstored' := (Dict.find?_filter_eq_some_iff.1 hr').1
  exact h key key' r r' hstored hstored' hoverlaps

/-- The access tokens of a store that comes about are apart. -/
theorem Grown.apart (hlists : InstanceHosts lists) (hs : Grown lists s) :
    s.Nonoverlapping lists := by
  induction hs with
  | empty =>
    intro key key' r r' hr
    cases hr
  | save i _ hlist henvironment ih => exact ih.saveResponse hlists hlist henvironment
  | remove homeAccountId aliases _ ih => exact ih.removeAccount homeAccountId aliases

/-- **Tokens do not overlap.** In a store that comes about by saving responses and removing accounts,
no two access tokens of one user, client and tenant under hosts of one instance grant a scope in
common. So if a query asks for a scope that is not reserved under hosts of one instance, at most one
of the records in the store is a match. -/
theorem Grown.nonoverlapping (hlists : InstanceHosts lists) (hs : Grown lists s) :
    (∀ key key' r r', s.accessTokens.find? key = some r → s.accessTokens.find? key' = some r' →
      key ≠ key' → ¬ r.Overlaps lists r') ∧
    ∀ (q : AccessTokenQuery) (hosts : List String), lists hosts →
      (∀ host, listed host q.aliases = true → listed host hosts = true) →
      (∃ name ∈ q.scopes.names, Scopes.isReserved name = false) →
      (s.accessTokens.values.filter q.isMatch).length ≤ 1 := by
  have hapart := hs.apart hlists
  constructor
  · intro key key' r r' hr hr' hne hoverlaps
    exact hne (hapart key key' r r' hr hr' hoverlaps)
  · intro q hosts hlist hwithin hasked
    apply Dict.length_filter_values_le_one
    intro key key' r r' hr hr' hmatch hmatch'
    exact hapart key key' r r' hr hr' (.of_isMatch hlist hwithin hasked hmatch hmatch')

namespace Sample

/-- Two instances, the first with two hosts. -/
def instances (hosts : List String) : Prop :=
  hosts = ["a.example", "b.example"] ∨ hosts = ["c.example"]

/-- A response for a user on a host of the first instance. -/
def granting (host scopes : String) : Issued :=
  let i := Issued.Sample.response "uid.utid" host
  { i with context := { i.context with
      aliases := ["a.example", "b.example"]
      requestedScopes := .ofText scopes } }

/-- A store in which three responses were saved, the last of which overlaps with the first. -/
def grown : Store :=
  ((Store.empty.saveResponse (granting "a.example" "read write")).saveResponse
    (granting "b.example" "mail")).saveResponse (granting "B.example" "files READ")

/-- A query for a token that may read. -/
def reading : AccessTokenQuery :=
  ⟨some "UID.utid", "utid", "client", .ofText "openid read", ["a.example", "b.example"], ⟨1000⟩,
    ⟨300⟩⟩

end Sample

/-- Of three tokens the last took the place of the first, which overlapped with it under the other
host of the instance; so there is one match for what both granted. -/
theorem nonoverlapping_grown :
    InstanceHosts Sample.instances ∧ Grown Sample.instances Sample.grown ∧
      Sample.grown.accessTokens.values.map (fun r => r.target.text) = ["mail", "READ files"] ∧
      (Sample.grown.accessTokens.values.filter Sample.reading.isMatch).length ≤ 1 := by
  have hlists : InstanceHosts Sample.instances := by
    have hapart : ∀ host, listed host ["a.example", "b.example"] = true →
        listed host ["c.example"] = false := by
      intro host hhost
      obtain ⟨name, hname, hsame⟩ := listed_iff.1 hhost
      rw [← listed_congr (sameText_iff.2 hsame)]
      have hnone : ∀ name ∈ ["a.example", "b.example"], listed name ["c.example"] = false := by
        decide +kernel
      exact hnone name hname
    rintro hosts hosts' (rfl | rfl) (rfl | rfl) host hhost hhost' other
    · rfl
    · rw [hapart host hhost] at hhost'
      cases hhost'
    · rw [hapart host hhost'] at hhost
      cases hhost
    · rfl
  have hgrown : Grown Sample.instances Sample.grown :=
    .save _ (.save _ (.save _ .empty (.inl rfl) (by decide +kernel)) (.inl rfl)
      (by decide +kernel)) (.inl rfl) (by decide +kernel)
  have honce := (hgrown.nonoverlapping hlists).2 Sample.reading ["a.example", "b.example"]
    (.inl rfl) (fun _ hhost => hhost) ⟨"read", by decide +kernel, by decide +kernel⟩
  exact ⟨hlists, hgrown, by decide +kernel, honce⟩

end Store

end SilentAuth
