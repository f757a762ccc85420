import SilentAuth.Proofs.Silent.Acquisition
import SilentAuth.Proofs.Silent.Tenants

/-!
# Tokens served from the cache

A token that an account gets from the cache comes either from a hit or from a precautionary refresh
that failed. Both rest on one record of the document that the lookup read: it belongs to the
account, the client, the tenant and the hosts that were asked about, grants what was requested, and
is valid for longer than the buffer.

* `Application.Serves`: what a record has to be in order to serve a request.
* `Application.Lookup.ServedBy`: what a lookup has to find so that a result may come from the cache;
  `Application.exists_servedBy`: every result from the cache was served by a lookup.
* `Application.acquire_account_source_cache`: every token from the cache comes from such a record,
  and only if no new one was demanded.
-/

namespace SilentAuth

open Session SilentAuth.Action

deriving instance DecidableEq for Dict, Scopes, AuthResult

namespace Application

/-- What an access token record has to be in order to serve a request of an application for an
account at a time, where `authority` is asked and the account may be cached under `aliases`. -/
structure Serves (app : Application) (account : Account) (scopes : Scopes) (authority : Authority)
    (aliases : List String) (now : UnixTime) (r : AccessTokenRecord) : Prop where
  home : sameText r.homeAccountId account.homeAccountId = true
  client : sameText r.clientId app.clientId = true
  realm : sameText r.realm authority.tenant = true
  environment : listed r.environment aliases = true
  granted : ∀ name ∈ scopes.names, Scopes.isReserved name = false →
    listed name r.target.names = true
  usable : r.UsableAt now app.config.expiryBuffer

/-- A usable record that the query of a request finds serves the request. -/
theorem serves_of_find {app : Application} {account : Account} {scopes : Scopes}
    {authority : Authority} {force : Bool} {aliases : List String} {now : UnixTime} {store : Store}
    {r : AccessTokenRecord}
    (hfound : store.findLatestAccessToken
      (app.accountQuery authority account scopes force aliases now).accessTokenQuery = some r)
    (husable : r.UsableAt now app.config.expiryBuffer) :
    r ∈ store.accessTokens.values ∧ app.Serves account scopes authority aliases now r := by
  obtain ⟨hcached, hmatch, _⟩ := Store.findLatestAccessToken_eq_some hfound
  obtain ⟨hhome, henvironment, hrealm, hclient, hgranted⟩ :=
    AccessTokenQuery.isMatch_iff.1 hmatch
  exact ⟨hcached, ⟨hhome, hclient, hrealm, henvironment, hgranted, husable⟩⟩

namespace Lookup

variable {app : Application} {account : Account} {scopes : Scopes} {force : Bool}
  {services : Services} {s : Session}

/-- The hosts under which a lookup searches. -/
def aliases (l : app.Lookup account scopes force services s) : List String :=
  accountAliases l.metadata l.resolved.discovery account

/-- The query for the access token. -/
def accessTokenQuery (l : app.Lookup account scopes force services s) : AccessTokenQuery :=
  (app.accountQuery l.authority account scopes force l.aliases s.now).accessTokenQuery

/-- A lookup serves a result if no new token was demanded and the result carries the token of the
record that it found, which is usable. -/
structure ServedBy (l : app.Lookup account scopes force services s) (result : AuthResult)
    (r : AccessTokenRecord) : Prop where
  unforced : force = false
  found : l.cache.store.findLatestAccessToken l.accessTokenQuery = some r
  usable : r.UsableAt s.now app.config.expiryBuffer
  token : result.accessToken = r.secret
  expiresOn : result.expiresOn = r.expiresOn
  scopes : result.scopes = r.target

/-- The result of a hit is served by a record. -/
theorem exists_servedBy_of_hit {l : app.Lookup account scopes force services s}
    {result : AuthResult} (h : l.offer = .hit result) : ∃ r, l.ServedBy result r := by
  have hoffer := l.offer_eq
  rw [h] at hoffer
  obtain ⟨r, hfound, hdecision, _, _, rfl⟩ := Store.offer_eq_hit hoffer
  obtain ⟨_, hforce, husable, _⟩ := Decision.of_eq_cacheHit_iff.1 hdecision
  exact ⟨r, hforce, hfound, husable, rfl, rfl, rfl⟩

/-- The result that a plan keeps for the case of a failure is served by a record. -/
theorem exists_servedBy_of_kept {l : app.Lookup account scopes force services s}
    {plan : RefreshPlan} {result : AuthResult} (h : l.offer = .refresh plan)
    (hkept : plan.cached = some result) : ∃ r, l.ServedBy result r := by
  have hoffer := l.offer_eq
  rw [h] at hoffer
  obtain ⟨hdecision, _, hcached⟩ := Store.offer_eq_refresh hoffer
  obtain ⟨hsoft, r, hfound, _, _, rfl⟩ := hcached result hkept
  -- only a precaution keeps the cached token, so the decision fell on a usable record
  rw [RefreshReason.isSoft_iff.1 hsoft] at hdecision
  obtain ⟨r', hfound', hforce, husable, _⟩ := Decision.of_eq_refreshOn_iff.1 hdecision
  rw [hfound] at hfound'
  cases hfound'
  exact ⟨r, hforce, hfound, husable, rfl, rfl, rfl⟩

end Lookup

/-- A token from the cache was taken from the offer of the lookup. -/
theorem take_source_cache {app : Application} {authority : Authority} {metadata : InstanceMetadata}
    {account : Account} {scopes : Scopes} {offer : Offer} {services : Services} {s t : Session}
    {result : AuthResult}
    (h : app.take authority metadata account scopes offer services s = (.ok result, t))
    (hsource : result.source = .cache) :
    offer = .hit result ∨ ∃ plan, offer = .refresh plan ∧ plan.cached = some result := by
  cases offer with
  | hit found =>
    cases h
    exact .inl rfl
  | refresh plan =>
    obtain ⟨answer, s', _, ⟨response, _, hissued⟩ | ⟨_, _, hkept, _⟩⟩ := refresh_eq_ok h
    · rw [(cacheResponse_eq_ok hissued).1] at hsource
      cases hsource
    · exact .inr ⟨plan, rfl, hkept⟩

/-- A token that an account gets from the cache was served by a lookup. -/
theorem exists_servedBy {app : Application} {account : Account} {scopes : Scopes} {force : Bool}
    {services : Services} {s t : Session} {result : AuthResult}
    (h : app.acquire (.account account scopes force) services s = (.ok result, t))
    (hsource : result.source = .cache) :
    ∃ (l : app.Lookup account scopes force services s) (r : AccessTokenRecord),
      l.ServedBy result r := by
  obtain ⟨l, htake⟩ := acquireFor_eq_ok h
  rcases take_source_cache htake hsource with hhit | ⟨plan, hplan, hkept⟩
  · exact ⟨l, Lookup.exists_servedBy_of_hit hhit⟩
  · exact ⟨l, Lookup.exists_servedBy_of_kept hplan hkept⟩

/-- **Soundness of cached tokens.** If an account gets a token from the cache, then no new token was
demanded, and the document that was read, be it persisted or in memory, holds a record that serves
the request and has the token as its secret. -/
theorem acquire_account_source_cache {app : Application} {account : Account} {scopes : Scopes}
    {force : Bool} {services : Services} {s : Session} {result : AuthResult}
    (h : (app.acquire (.account account scopes force) services s).1 = .ok result)
    (hsource : result.source = .cache) :
    force = false ∧ ∃ authority metadata resolved cache r,
      app.authorityFor account = .ok authority ∧
        app.resolve authority services s = (.ok metadata, resolved) ∧
        s.opened = .ok cache ∧ r ∈ cache.store.accessTokens.values ∧
        app.Serves account scopes authority
          (accountAliases metadata resolved.discovery account) s.now r ∧
        result.accessToken = r.secret ∧ result.accessToken ≠ "" ∧
        result.expiresOn = r.expiresOn ∧ result.scopes = r.target := by
  obtain ⟨l, r, hserved⟩ := exists_servedBy (Prod.ext h rfl) hsource
  obtain ⟨hmem, hserves⟩ := serves_of_find hserved.found hserved.usable
  have hne : result.accessToken ≠ "" := hserved.token ▸ hserved.usable.secret_ne
  exact ⟨hserved.unforced, l.authority, l.metadata, l.resolved, l.cache, r, l.authorityFor_eq,
    l.resolve_eq, l.opened_eq, hmem, hserves, hserved.token, hne, hserved.expiresOn,
    hserved.scopes⟩

/-! ### A precautionary refresh that fails -/

namespace Sample

/-- An application that signs users of all directories in. -/
def application : Application where
  clientId := "client"
  authority := Authority.Sample.directory "common" ["common"]
  config := .standard

/-- A user of one directory. -/
def account : Account := ⟨"UID.utid", "[::1]", "utid", none, none⟩

/-- A token of the user that is valid for an hour and has been due for a refresh for a minute. -/
def dueToken : AccessTokenRecord where
  homeAccountId := "uid.utid"
  environment := "[::1]"
  credentialType := .accessToken
  clientId := "client"
  secret := "at"
  realm := "utid"
  target := .ofText "read write"
  cachedAt := ⟨100⟩
  expiresOn := ⟨4600⟩
  extendedExpiresOn := none
  refreshOn := some ⟨940⟩
  extra := .empty

/-- The credentials of the user. -/
def store : Store :=
  ((Store.empty.putAccessToken dueToken).putRefreshToken
    ⟨"uid.utid", "[::1]", .refreshToken, "client", "rt", none, .empty⟩).putAccount
      ⟨"uid.utid", "[::1]", "utid", none, none, none, none, none, .empty⟩

/-- A session without a storage. -/
def session : Session := ⟨⟨store, none, false⟩, .offline, ⟨1000⟩, none, .empty⟩

/-- An identity provider that is down. -/
def down : Services := ⟨fun _ _ => none, fun _ _ => ⟨.error (.withStatus 503), none, ⟨5⟩⟩⟩

end Sample

/-- The user asks in other case and with a reserved scope, the refresh fails, and the due token is
returned, since its record serves the request. -/
theorem acquire_account_source_cache_degraded :
    (Sample.application.acquire (.account Sample.account (.ofText "openid READ") false) Sample.down
        Sample.session).1 =
      .ok (.ofCache Sample.dueToken none (some ⟨"uid.utid", "[::1]", "utid", none, none⟩)) ∧
    ∃ authority metadata resolved cache r,
      Sample.application.authorityFor Sample.account = .ok authority ∧
        Sample.application.resolve authority Sample.down Sample.session = (.ok metadata, resolved) ∧
        Sample.session.opened = .ok cache ∧ r ∈ cache.store.accessTokens.values ∧
        Sample.application.Serves Sample.account (.ofText "openid READ") authority
          (accountAliases metadata resolved.discovery Sample.account) ⟨1000⟩ r ∧
            "at" = r.secret := by
  have hrun : (Sample.application.acquire (.account Sample.account (.ofText "openid READ") false)
      Sample.down Sample.session).1 =
        .ok (.ofCache Sample.dueToken none (some ⟨"uid.utid", "[::1]", "utid", none, none⟩)) := by
    decide +kernel
  obtain ⟨_, authority, metadata, resolved, cache, r, hauthority, hresolve, hopened, hmem, hserves,
    htoken, _⟩ := acquire_account_source_cache hrun rfl
  exact ⟨hrun, authority, metadata, resolved, cache, r, hauthority, hresolve, hopened, hmem,
    hserves, htoken⟩

end Application

end SilentAuth
