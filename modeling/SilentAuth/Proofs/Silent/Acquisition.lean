import SilentAuth.Application
import SilentAuth.Proofs.Session.Access
import SilentAuth.Proofs.Silent.Offer

/-!
# The course of an acquisition

An acquisition for an account begins with a lookup: the authority is chosen, its host resolved, and
one access to the cache gives an offer. `Application.Lookup` holds all that is known after a lookup
that succeeded. What follows is taking the offer; if that means a refresh, it ends with new tokens
that were cached, or with the cached token that the plan kept.

* `Application.acquireFor_cases`: an acquisition is a lookup and taking its offer, or it ends with
  an error before anyone is asked for a token; `Application.acquireFor_eq_ok`: one that succeeds is
  the former.
* `concludeRefresh_eq_ok`: the two ways in which a refresh ends well; `concludeRefresh_eq_error`: the
  one in which it does not.
* `Application.refresh_eq_ok`: the same, with the session in which it ends.
* `Application.cacheResponse_eq_ok`: what is known after new tokens were cached.
-/

namespace SilentAuth

open Session SilentAuth.Action

/-- What a refresh gives is what was issued, or the cached token if the refresh was a precaution
and failed. -/
theorem concludeRefresh_eq_ok {reason : RefreshReason} {cached : Option AuthResult}
    {refreshed : Except ServiceError AuthResult} {result : AuthResult}
    (h : (concludeRefresh reason cached refreshed).map RefreshOutcome.result = .ok result) :
    refreshed = .ok result ∨
      ∃ e, refreshed = .error e ∧ cached = some result ∧ reason.isSoft = true := by
  cases refreshed with
  | ok issued =>
    simp only [concludeRefresh, Except.map, RefreshOutcome.result, Except.ok.injEq] at h
    exact .inl (h ▸ rfl)
  | error e =>
    cases cached with
    | none => simp [concludeRefresh, Except.map] at h
    | some kept =>
      cases hsoft : reason.isSoft with
      | false => simp [concludeRefresh, hsoft, Except.map] at h
      | true =>
        simp only [concludeRefresh, hsoft, if_true, Except.map, RefreshOutcome.result,
          Except.ok.injEq] at h
        exact .inr ⟨e, rfl, congrArg some h, rfl⟩

/-- What remains of a refresh that failed, if no token is kept, is the failure. -/
theorem concludeRefresh_eq_error {reason : RefreshReason} {cached : Option AuthResult}
    {refreshed : Except ServiceError AuthResult} {e : Error}
    (h : (concludeRefresh reason cached refreshed).map RefreshOutcome.result = .error e) :
    ∃ failure, refreshed = .error failure ∧ e = .service failure := by
  cases refreshed with
  | ok issued => cases h
  | error failure =>
    refine ⟨failure, rfl, ?_⟩
    cases cached with
    | none =>
      cases h
      rfl
    | some kept =>
      simp only [concludeRefresh] at h
      split at h
      · cases h
      · cases h
        rfl

namespace Application

/-! ### The lookup -/

/-- A lookup on behalf of an account that succeeded: what was found out in its course, and the
session in which it ended. -/
structure Lookup (app : Application) (account : Account) (scopes : Scopes) (forceRefresh : Bool)
    (services : Services) (s : Session) where
  /-- The authority that is asked. -/
  authority : Authority
  /-- What is known about its host. -/
  metadata : InstanceMetadata
  /-- The session after its host was resolved. -/
  resolved : Session
  /-- The cache that was read. -/
  cache : TokenCache
  /-- What the cache offers. -/
  offer : Offer
  /-- The session after the cache was read. -/
  final : Session
  authorityFor_eq : app.authorityFor account = .ok authority
  resolve_eq : app.resolve authority services s = (.ok metadata, resolved)
  opened_eq : s.opened = .ok cache
  offer_eq : cache.store.offer (app.accountQuery authority account scopes forceRefresh
    (accountAliases metadata resolved.discovery account) s.now) = .ok offer
  stored : Stored { resolved with cache := cache } final
  surroundings : SameSurroundings resolved final

/-- An acquisition takes the offer of a lookup, or it ends with an error before anyone is asked for a
token. -/
theorem acquireFor_cases {app : Application} {account : Account} {scopes : Scopes}
    {forceRefresh : Bool} {services : Services} {s t : Session} {result : Except Error AuthResult}
    (h : app.acquireFor account scopes forceRefresh services s = (result, t)) :
    (∃ l : app.Lookup account scopes forceRefresh services s,
      app.take l.authority l.metadata account scopes l.offer services l.final = (result, t)) ∨
    ((∃ e, result = .error e) ∧ t.journal.exchanges = s.journal.exchanges) := by
  rcases bind_cases h with ⟨e, hauthority, rfl⟩ | ⟨authority, s₀, hauthority, h⟩
  · obtain rfl : s = t := (Prod.mk.inj hauthority).2
    exact .inr ⟨⟨e, rfl⟩, rfl⟩
  obtain ⟨hauthority_eq, rfl⟩ := ofExcept_eq_ok_iff.1 hauthority
  rcases bind_cases h with ⟨e, hresolve, rfl⟩ | ⟨metadata, resolved, hresolve, h⟩
  · exact .inr ⟨⟨e, rfl⟩, (resolve_sameAccess hresolve).exchanges⟩
  have haccess := resolve_sameAccess hresolve
  rcases bind_cases h with ⟨_, hview, _⟩ | ⟨_, _, hview, h⟩
  · cases hview
  cases hview
  rcases bind_cases h with ⟨_, hview, _⟩ | ⟨_, _, hview, h⟩
  · cases hview
  cases hview
  rcases bind_cases h with ⟨e, hreading, rfl⟩ | ⟨answer, final, hreading, h⟩
  · exact .inr ⟨⟨e, rfl⟩,
      (withCache_sameSurroundings hreading).exchanges.trans haccess.exchanges⟩
  obtain ⟨cache, hopened, rfl, hstored, hsame⟩ := reading_eq_ok hreading
  rcases bind_cases h with ⟨e, hoffer, rfl⟩ | ⟨offer, _, hoffer, h⟩
  · obtain rfl : final = t := (Prod.mk.inj hoffer).2
    exact .inr ⟨⟨e, rfl⟩, hsame.exchanges.trans haccess.exchanges⟩
  obtain ⟨hoffer, rfl⟩ := ofExcept_eq_ok_iff.1 hoffer
  have hoffer_eq : cache.store.offer (app.accountQuery authority account scopes forceRefresh
      (accountAliases metadata resolved.discovery account) s.now) = .ok offer := by
    rw [← haccess.now]
    revert hoffer
    cases cache.store.offer _ with
    | error e => exact fun h => by cases h
    | ok o => exact fun h => by cases h; rfl
  exact .inl ⟨{
    authority, metadata, resolved, cache, offer, final
    authorityFor_eq := hauthority_eq
    resolve_eq := hresolve
    opened_eq := haccess.opened ▸ hopened
    offer_eq := hoffer_eq
    stored := hstored
    surroundings := hsame }, h⟩

/-- An acquisition that succeeds is a lookup, and then its offer is taken. -/
theorem acquireFor_eq_ok {app : Application} {account : Account} {scopes : Scopes}
    {forceRefresh : Bool} {services : Services} {s t : Session} {result : AuthResult}
    (h : app.acquireFor account scopes forceRefresh services s = (.ok result, t)) :
    ∃ l : app.Lookup account scopes forceRefresh services s,
      app.take l.authority l.metadata account scopes l.offer services l.final =
        (.ok result, t) := by
  rcases acquireFor_cases h with hlookup | ⟨⟨_, herror⟩, _⟩
  · exact hlookup
  · cases herror

/-! ### Taking the offer -/

/-- A refresh that succeeds was answered with tokens, which were cached, or it was a precaution and
was answered with a failure, and the cached token is returned. -/
theorem refresh_eq_ok {app : Application} {authority : Authority} {metadata : InstanceMetadata}
    {account : Account} {scopes : Scopes} {plan : RefreshPlan} {services : Services}
    {s t : Session} {result : AuthResult}
    (h : app.refresh authority metadata account scopes plan services s = (.ok result, t)) :
    ∃ answer s', exchange (app.refreshRequest authority scopes plan.refreshToken) services s =
        (.ok answer, s') ∧
      ((∃ response, answer = .ok response ∧
          app.cacheResponse authority metadata scopes (some account) response services s' =
            (.ok result, t)) ∨
        (∃ e, answer = .error e ∧ plan.cached = some result ∧ plan.reason.isSoft = true ∧
          t = s')) := by
  unfold refresh at h
  simp only [bind_eq_ok_iff, ofExcept_eq_ok_iff] at h
  obtain ⟨answer, s', hexchange, refreshed, s₂, hcache, hconclude, rfl⟩ := h
  refine ⟨answer, s', hexchange, ?_⟩
  cases answer with
  | ok response =>
    obtain ⟨issued, s₃, hissued, hpure⟩ := bind_eq_ok_iff.1 hcache
    cases hpure
    rcases concludeRefresh_eq_ok hconclude with hok | ⟨e, he, _⟩
    · cases hok
      exact .inl ⟨response, rfl, hissued⟩
    · cases he
  | error e =>
    cases hcache
    rcases concludeRefresh_eq_ok hconclude with hok | ⟨_, _, hcached, hsoft⟩
    · cases hok
    · exact .inr ⟨e, rfl, hcached, hsoft, rfl⟩

/-- What a response says that was received at a time, with the request it answers. -/
def issued (app : Application) (authority : Authority) (metadata : InstanceMetadata)
    (scopes : Scopes) (account : Option Account) (response : TokenResponse) (now : UnixTime) :
    Issued where
  context := {
    authority, account, now
    environment := metadata.preferredCache
    aliases := metadata.aliases
    clientId := app.clientId
    requestedScopes := scopes }
  response := response

/-- Caching a response gives the new token, after the response was saved and stored. -/
theorem cacheResponse_eq_ok {app : Application} {authority : Authority}
    {metadata : InstanceMetadata} {scopes : Scopes} {account : Option Account}
    {response : TokenResponse} {services : Services} {s t : Session} {result : AuthResult}
    (h : app.cacheResponse authority metadata scopes account response services s =
      (.ok result, t)) :
    result.source = .identityProvider ∧ result.accessToken = response.accessToken ∧
      ∃ c, s.opened = .ok c ∧
        Stored { s with
          cache := c.modify
            (·.saveResponse (app.issued authority metadata scopes account response s.now)) } t ∧
        SameSurroundings s t := by
  unfold cacheResponse at h
  simp only [bind_eq_ok_iff, view_eq_ok_iff] at h
  obtain ⟨_, _, ⟨rfl, rfl⟩, saved, s₁, hsaved, hpure⟩ := h
  obtain ⟨c, hopened, _, hstored, hsame⟩ := changing_eq_ok hsaved
  cases hpure
  exact ⟨rfl, rfl, c, hopened, hstored, hsame⟩

/-- A new token is given with the account to which it belongs, else with the one that asked. -/
theorem account_of_cacheResponse {app : Application} {authority : Authority}
    {metadata : InstanceMetadata} {scopes : Scopes} {account : Option Account}
    {response : TokenResponse} {services : Services} {s t : Session} {result : AuthResult}
    (h : app.cacheResponse authority metadata scopes account response services s =
      (.ok result, t)) :
    result.account =
      (app.issued authority metadata scopes account response s.now).account?.or account := by
  unfold cacheResponse at h
  simp only [bind_eq_ok_iff, view_eq_ok_iff] at h
  obtain ⟨_, _, ⟨rfl, rfl⟩, saved, _, hsaved, hpure⟩ := h
  obtain ⟨_, _, rfl, _, _⟩ := changing_eq_ok hsaved
  cases hpure
  rfl

end Application

end SilentAuth
