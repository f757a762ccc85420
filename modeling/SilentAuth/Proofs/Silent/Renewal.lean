import SilentAuth.Proofs.Discovery.Runs
import SilentAuth.Proofs.Session.Reopening
import SilentAuth.Proofs.Silent.Acquisition

/-!
# Acquisitions that end with new tokens

An acquisition that ends with a new token consists of a lookup that offered a refresh, the answer of
the identity provider, and an access to the cache in which the answer was saved.

* `Application.exists_renewal`: every acquisition with a new token has this form.
* `Application.Renewal.exists_settled`: the store that the next access finds.
* `Application.acquireFor_of_settled`: an acquisition takes what the store offers that is found;
  `Application.acquire_of_settled`: one that is repeated and finds a token in the cache.
-/

namespace SilentAuth

open Session SilentAuth.Action

namespace Application

/-- An acquisition for an account that ended with a new token: all that was found out in its course,
and the session in which it ended. -/
structure Renewal (app : Application) (account : Account) (scopes : Scopes) (services : Services)
    (s : Session) where
  /-- The lookup before the refresh. -/
  lookup : app.Lookup account scopes false services s
  /-- The refresh that was offered. -/
  plan : RefreshPlan
  /-- What the identity provider answered. -/
  response : TokenResponse
  /-- The session when the answer came in. -/
  asked : Session
  /-- The cache in which the answer was saved. -/
  cache : TokenCache
  /-- The session at the end. -/
  final : Session
  offer_eq : lookup.offer = .refresh plan
  exchange_eq : exchange (app.refreshRequest lookup.authority scopes plan.refreshToken) services
    lookup.final = (.ok (.ok response), asked)
  opened_eq : asked.opened = .ok cache
  stored : Stored { asked with
    cache := cache.modify (·.saveResponse (app.issued lookup.authority lookup.metadata scopes
      (some account) response asked.now)) } final
  surroundings : SameSurroundings asked final

variable {app : Application} {account : Account} {scopes : Scopes} {services : Services}
  {s t : Session} {result : AuthResult}

/-- An acquisition that ends with a new token is a lookup, a refresh, and saving the answer. -/
theorem exists_renewal
    (h : app.acquire (.account account scopes false) services s = (.ok result, t))
    (hsource : result.source = .identityProvider) :
    ∃ r : app.Renewal account scopes services s,
      r.final = t ∧ r.response.accessToken = result.accessToken := by
  obtain ⟨l, htake⟩ := acquireFor_eq_ok h
  have hoffer := l.offer_eq
  cases hl : l.offer with
  | hit found =>
    rw [hl] at hoffer htake
    obtain ⟨r, _, _, _, _, hfound⟩ := Store.offer_eq_hit hoffer
    cases htake
    rw [hfound] at hsource
    cases hsource
  | refresh plan =>
    rw [hl] at hoffer htake
    obtain ⟨answer, asked, hexchange, ⟨response, rfl, hissued⟩ | ⟨_, _, hkept, _⟩⟩ :=
      refresh_eq_ok htake
    · obtain ⟨_, htoken, cache, hopened, hstored, hsame⟩ := cacheResponse_eq_ok hissued
      exact ⟨{
        lookup := l
        plan, response, asked, cache
        final := t
        offer_eq := hl
        exchange_eq := hexchange
        opened_eq := hopened
        stored := hstored
        surroundings := hsame }, rfl, htoken.symm⟩
    · obtain ⟨_, _, hcached⟩ := Store.offer_eq_refresh hoffer
      obtain ⟨_, _, _, _, _, rfl⟩ := hcached result hkept
      cases hsource

namespace Renewal

variable (r : app.Renewal account scopes services s)

/-- What was issued. -/
def issued : Issued :=
  app.issued r.lookup.authority r.lookup.metadata scopes (some account) r.response r.asked.now

/-- The request to the identity provider. -/
def request : RefreshRequest := app.refreshRequest r.lookup.authority scopes r.plan.refreshToken

/-- What happened while the identity provider was asked. -/
def answer : Exchange := services.exchange r.lookup.final.journal.exchanges.length r.request

/-- The session when the answer came in. -/
theorem asked_eq : r.asked = { r.lookup.final with
    now := r.lookup.final.now.ticked r.answer.elapsed
    storage := r.lookup.final.storage.map fun storage =>
      r.answer.persisted.elim storage storage.overwrite
    journal.exchanges := r.lookup.final.journal.exchanges ++ [r.request] } := by
  have h := r.exchange_eq
  rw [exchange_apply] at h
  exact (Prod.mk.inj h).2.symm

/-- The identity provider answered with the response. -/
theorem answer_eq : r.answer.answer = .ok r.response := by
  have h := r.exchange_eq
  rw [exchange_apply] at h
  exact Except.ok.inj (Prod.mk.inj h).1

/-- Time passes only while the identity provider is asked. -/
theorem now_eq : r.final.now = s.now.ticked r.answer.elapsed := by
  have hresolved := resolve_sameAccess r.lookup.resolve_eq
  rw [r.surroundings.now, asked_eq, r.lookup.surroundings.now, hresolved.now]

/-- Nothing that is found out about hosts changes after the lookup resolved its authority. -/
theorem discovery_eq : r.final.discovery = r.lookup.resolved.discovery := by
  rw [r.surroundings.discovery, asked_eq, r.lookup.surroundings.discovery]

/-- There is a storage when the answer comes in exactly if there was one at the start. -/
theorem isSome_storage : r.asked.storage.isSome = s.storage.isSome := by
  have hresolved := resolve_sameAccess r.lookup.resolve_eq
  have hlookup := r.lookup.stored.isSome_storage
  rw [asked_eq, Option.isSome_map, hlookup, hresolved.storage]

/-- With a storage, the answer is saved in a cache that comes from documents. -/
theorem documented (h : s.Documented) (hstorage : s.storage.isSome = true) :
    r.cache.Documented := by
  have hlookup : r.lookup.cache.Documented := h.opened hstorage r.lookup.opened_eq
  have hresolved : r.lookup.resolved.storage.isSome = true := by
    rw [(resolve_sameAccess r.lookup.resolve_eq).storage]
    exact hstorage
  have hfinal : r.lookup.final.cache.Documented :=
    r.lookup.stored.documented (fun _ => hlookup) hresolved
  have hasked : r.asked.Documented := by
    intro storage _ _
    rw [asked_eq]
    exact hfinal
  exact hasked.opened (r.isSome_storage ▸ hstorage) r.opened_eq

/-- The next access finds the store in which the answer was saved, as it is kept. -/
theorem exists_settled (h : s.Documented) : ∃ found, r.final.Settled found ∧
    found.store = (r.cache.modify (·.saveResponse r.issued)).kept s.storage.isSome := by
  rw [← r.isSome_storage]
  apply r.stored.exists_settled_of_saved r.opened_eq
  intro hstorage
  exact (r.documented h (r.isSome_storage ▸ hstorage)).legible

/-- If no one else persisted anything while the identity provider was asked, then an account that
the lookup found is still cached when the answer comes in. -/
theorem findAccount_isSome (h : s.Documented) (hpersisted : r.answer.persisted = none)
    {home : String} {realm : Option String} {aliases : List String}
    (hfound : (r.lookup.cache.store.findAccount home realm aliases).isSome = true) :
    (r.cache.store.findAccount home realm aliases).isSome = true := by
  have hopened : r.lookup.resolved.opened = .ok r.lookup.cache := by
    rw [(resolve_sameAccess r.lookup.resolve_eq).opened]
    exact r.lookup.opened_eq
  have hfits : r.lookup.resolved.storage.isSome = true → r.lookup.cache.document.Fits := by
    intro hstorage
    rw [(resolve_sameAccess r.lookup.resolve_eq).storage] at hstorage
    have hcache := h.opened hstorage r.lookup.opened_eq
    exact TokenCache.fits_document hcache.fits hcache.baseline
  obtain ⟨found, hsettled, hstore⟩ := r.lookup.stored.exists_settled hopened (.inl rfl) hfits
  have hasked : r.asked.opened = r.lookup.final.opened := by
    unfold Session.opened
    rw [asked_eq, hpersisted]
    simp only [Option.elim_none, Option.map_id']
  have hsame : found = r.cache := by
    have hcache := r.opened_eq
    rw [hasked, hsettled.opened] at hcache
    exact Except.ok.inj hcache
  rw [← hsame, hstore]
  exact TokenCache.findAccount_kept_isSome hfound

end Renewal

/-! ### A request that is repeated -/

/-- An acquisition whose authority is known takes what the store offers that the next access
finds. -/
theorem acquireFor_of_settled {authority : Authority} {metadata : InstanceMetadata}
    {found : TokenCache} {force : Bool} (hauthority : app.authorityFor account = .ok authority)
    (hresolve : app.resolve authority services t = (.ok metadata, t)) (hsettled : t.Settled found) :
    app.acquireFor account scopes force services t =
      match found.store.offer (app.accountQuery authority account scopes force
        (accountAliases metadata t.discovery account) t.now) with
      | .ok offer => app.take authority metadata account scopes offer services
          (accessed app.clientId (some account) t found)
      | .error miss => (.error (.cacheMiss miss), accessed app.clientId (some account) t found) := by
  have hreading := reading_of_settled hsettled app.clientId (some account)
    (fun store => store.offer (app.accountQuery authority account scopes force
      (accountAliases metadata t.discovery account) t.now)) services
  unfold acquireFor
  simp only [bind_apply, Action.ofExcept, Action.view, hauthority, hresolve, hreading]
  cases found.store.offer (app.accountQuery authority account scopes force
    (accountAliases metadata t.discovery account) t.now) <;> rfl

/-- An acquisition whose authority is known, and whose query finds a usable token in the cache, gives
this token and asks no one. -/
theorem acquire_of_settled {authority : Authority} {metadata : InstanceMetadata}
    {found : TokenCache} {r : AccessTokenRecord}
    (hauthority : app.authorityFor account = .ok authority)
    (hresolve : ∀ services, app.resolve authority services t = (.ok metadata, t))
    (hsettled : t.Settled found)
    (haccount : (found.store.accountFor (app.accountQuery authority account scopes false
      (accountAliases metadata t.discovery account) t.now)).isSome = true)
    (hfound : found.store.findLatestAccessToken (app.accountQuery authority account scopes false
      (accountAliases metadata t.discovery account) t.now).accessTokenQuery = some r)
    (husable : r.UsableAt t.now app.config.expiryBuffer) (hdue : r.refreshDueAt t.now = false)
    (services : Services) :
    ∃ again u, app.acquire (.account account scopes false) services t = (.ok again, u) ∧
      again.accessToken = r.secret ∧ again.source = .cache ∧ SameSurroundings t u := by
  have hdecision : Decision.of (some r) false t.now app.config.expiryBuffer = .cacheHit r :=
    Decision.of_eq_cacheHit_iff.2 ⟨rfl, rfl, husable, hdue⟩
  obtain ⟨idToken, known, hoffer⟩ := Store.offer_of_cacheHit haccount hfound hdecision
  refine ⟨.ofCache r idToken known, accessed app.clientId (some account) t found, ?_, rfl, rfl,
    accessed_sameSurroundings found⟩
  show app.acquireFor account scopes false services t = _
  rw [acquireFor_of_settled hauthority (hresolve services) hsettled, hoffer]
  rfl

end Application

end SilentAuth
