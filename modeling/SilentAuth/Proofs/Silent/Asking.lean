import SilentAuth.Proofs.Cache.Selection
import SilentAuth.Proofs.Session.Reopening
import SilentAuth.Proofs.Silent.CacheServed
import SilentAuth.Proofs.Silent.Tenants

/-!
# What the identity provider is asked

While it acquires a token for an account, an application asks the identity provider at most once, and
it sends a refresh token only that the cache holds for this account and that the client may redeem.
Every way in which an acquisition can end is covered, also those that end with an error.

* `Application.acquireFor_cases`: an acquisition takes the offer of a lookup, or it ends before.
* `Application.Permits`: what an application may send on behalf of an account.
* `Application.acquire_account_asks`: an acquisition sends nothing else.
-/

namespace SilentAuth

open Session SilentAuth.Action

/-! ### Errors of a storage without faults -/

/-- The storage of a session, if there is one, neither fails to load nor to store on its own. -/
def Session.Faultless (s : Session) : Prop :=
  ∀ storage, s.storage = some storage → storage.loadFault = none ∧ storage.storeFault = none

/-- Without faults there is no cache to work on only if what is persisted cannot be read. -/
theorem Session.Faultless.opened_error {s : Session} (h : s.Faultless) {e : Error}
    (hopened : s.opened = .error e) : e = .storage ∨ e = .malformedCacheData := by
  unfold opened at hopened
  cases hs : s.storage with
  | none => simp [hs] at hopened
  | some storage =>
    simp only [hs, Storage.load, (h storage hs).1] at hopened
    cases hcontent : storage.content with
    | nothing => simp [hcontent] at hopened
    | unreadable =>
      simp only [hcontent, Except.error.injEq] at hopened
      exact .inl hopened.symm
    | text text =>
      cases hparse : TokenCache.load? text with
      | some c => simp [hcontent, hparse] at hopened
      | none =>
        simp only [hcontent, hparse, Option.elim_none, Except.error.injEq] at hopened
        exact .inr hopened.symm

/-- A storage without a fault takes a cache unless its text cannot be replaced. -/
theorem Storage.store_error {storage : Storage} (h : storage.storeFault = none) {c : TokenCache}
    {e : Error} (hstore : (storage.store c).1 = .error e) :
    e = .storage ∧ storage.writable = false := by
  simp only [Storage.store, h] at hstore
  split at hstore
  · cases hstore
  · split at hstore
    · cases hstore
    · rename_i hwritable
      cases hstore
      exact ⟨rfl, by simpa using hwritable⟩

/-- An access to a cache in a storage without faults fails only for want of a readable and writable
place. -/
theorem Action.withCache_error {α : Type} {clientId : String} {account : Option Account}
    {access : TokenCache → α × TokenCache} {services : Services} {s t : Session} {e : Error}
    (hfaultless : s.Faultless)
    (h : withCache clientId account access services s = (.error e, t)) :
    e = .storage ∨ e = .malformedCacheData := by
  rcases withCache_eq_error h with hopened | ⟨storage, c, hstorage, _, hstore⟩
  · exact hfaultless.opened_error hopened
  · exact .inl (Storage.store_error (hfaultless storage hstorage).2 hstore).1

namespace Application

variable {app : Application} {account : Account} {scopes : Scopes} {forceRefresh : Bool}
  {services : Services} {s t : Session} {result : Except Error AuthResult}

/-! ### Taking an offer -/

/-- After a lookup that succeeded, the storage has no faults. -/
theorem Lookup.faultless_final (l : app.Lookup account scopes forceRefresh services s) :
    l.final.Faultless := by
  have hstorage : l.resolved.storage = s.storage := (resolve_sameAccess l.resolve_eq).storage
  intro storage hfinal
  have hsome : s.storage.isSome = true := by
    rw [← hstorage, ← l.stored.isSome_storage, hfinal]
    rfl
  obtain ⟨before, hbefore⟩ := Option.isSome_iff_exists.1 hsome
  obtain ⟨hload, _⟩ := loaded_of_opened l.opened_eq hbefore
  obtain ⟨after, hstore, hafter⟩ := l.stored.within before (hstorage.trans hbefore)
  cases hafter.symm.trans hfinal
  obtain ⟨hfault, ⟨_, rfl, _⟩ | ⟨_, rfl, _⟩⟩ := Storage.store_eq_ok hstore
  · exact ⟨hload, hfault⟩
  · exact ⟨hload, hfault⟩

/-- Caching a response asks no one, and with a storage without faults it misses nothing in the
cache. -/
theorem cacheResponse_cases {authority : Authority} {metadata : InstanceMetadata}
    {saveFor : Option Account} {response : TokenResponse} (hfaultless : s.Faultless)
    (h : app.cacheResponse authority metadata scopes saveFor response services s = (result, t)) :
    t.journal.exchanges = s.journal.exchanges ∧ ∀ miss, result ≠ .error (.cacheMiss miss) := by
  rcases bind_cases h with ⟨_, hview, _⟩ | ⟨_, _, hview, h⟩
  · cases hview
  cases hview
  rcases bind_cases h with ⟨e, hsaving, rfl⟩ | ⟨_, _, hsaving, h⟩
  · refine ⟨(withCache_sameSurroundings hsaving).exchanges, ?_⟩
    intro miss hmiss
    cases hmiss
    rcases withCache_error hfaultless hsaving with he | he <;> cases he
  · cases h
    exact ⟨(withCache_sameSurroundings hsaving).exchanges, nofun⟩

/-- A refresh asks the identity provider once, with the request of its plan. From then on nothing is
missed in the cache. -/
theorem refresh_cases {authority : Authority} {metadata : InstanceMetadata} {plan : RefreshPlan}
    (hfaultless : s.Faultless)
    (h : app.refresh authority metadata account scopes plan services s = (result, t)) :
    t.journal.exchanges =
        s.journal.exchanges ++ [app.refreshRequest authority scopes plan.refreshToken] ∧
      ∀ miss, result ≠ .error (.cacheMiss miss) := by
  obtain ⟨answer, asked, hexchange, h⟩ := exchange_bind_cases h
  rw [exchange_apply] at hexchange
  obtain ⟨_, hasked⟩ := Prod.mk.inj hexchange
  have hexchanges : asked.journal.exchanges =
      s.journal.exchanges ++ [app.refreshRequest authority scopes plan.refreshToken] := by
    rw [← hasked]
  have hstill : asked.Faultless := by
    intro storage hstorage
    rw [← hasked] at hstorage
    obtain ⟨before, hbefore, rfl⟩ := Option.map_eq_some_iff.1 hstorage
    obtain ⟨hload, hstore⟩ := hfaultless before hbefore
    cases (services.exchange s.journal.exchanges.length
      (app.refreshRequest authority scopes plan.refreshToken)).persisted with
    | none => exact ⟨hload, hstore⟩
    | some content =>
      rw [Option.elim_some, Storage.overwrite]
      split
      · exact ⟨hload, hstore⟩
      · exact ⟨hload, hstore⟩
  have hcache : ∀ u refreshed, app.cacheAnswer authority metadata account scopes answer services
      asked = (refreshed, u) → u.journal.exchanges = asked.journal.exchanges ∧
        ∀ miss, refreshed ≠ .error (.cacheMiss miss) := by
    intro u refreshed hanswer
    cases answer with
    | error e =>
      cases hanswer
      exact ⟨rfl, nofun⟩
    | ok response =>
      rcases bind_cases hanswer with ⟨e, hissued, rfl⟩ | ⟨issued, _, hissued, hpure⟩
      · obtain ⟨hsame, hmiss⟩ := cacheResponse_cases hstill hissued
        exact ⟨hsame, fun miss hcase => hmiss miss (by cases hcase; rfl)⟩
      · obtain ⟨hsame, _⟩ := cacheResponse_cases hstill hissued
        cases hpure
        exact ⟨hsame, nofun⟩
  rcases bind_cases h with ⟨e, hcached, rfl⟩ | ⟨refreshed, u, hcached, h⟩
  · obtain ⟨hsame, hmiss⟩ := hcache _ _ hcached
    exact ⟨hsame.trans hexchanges, fun miss hcase => hmiss miss (by cases hcase; rfl)⟩
  · obtain ⟨hsame, _⟩ := hcache _ _ hcached
    obtain ⟨hresult, rfl⟩ := Prod.mk.inj h
    refine ⟨hsame.trans hexchanges, ?_⟩
    intro miss hmiss
    obtain ⟨_, _, herror⟩ := concludeRefresh_eq_error (hresult.trans hmiss)
    cases herror

/-! ### What may be sent -/

/-- What an application may send to the identity provider on behalf of an account that may be cached
in a store under some hosts: its own identity, the requested scopes but the reserved ones, an
authority of its kind and host, and a refresh token that is cached for the account, under one of the
hosts, and is one of its own or one that a family shares. -/
structure Permits (app : Application) (account : Account) (scopes : Scopes) (aliases : List String)
    (store : Store) (request : RefreshRequest) : Prop where
  client : request.clientId = app.clientId
  scopes : request.scopes = scopes.withoutReserved
  kind : request.authority.kind = app.authority.kind
  host : request.authority.host = app.authority.host
  token : ∃ r ∈ store.refreshTokens.values, request.refreshToken = r.secret ∧
    sameText r.homeAccountId account.homeAccountId = true ∧ listed r.environment aliases = true ∧
    (sameText r.clientId app.clientId = true ∨ r.family?.isSome = true)

/-- The request of a plan is permitted. -/
theorem Lookup.permits_of_plan (l : app.Lookup account scopes forceRefresh services s)
    {plan : RefreshPlan} (h : l.offer = .refresh plan) :
    app.Permits account scopes l.aliases l.cache.store
      (app.refreshRequest l.authority scopes plan.refreshToken) := by
  have hoffer := l.offer_eq
  rw [h] at hoffer
  obtain ⟨_, ⟨token, hselected, hsecret⟩, _⟩ := Store.offer_eq_refresh hoffer
  obtain ⟨hcached, hbelongs, hwanted⟩ := Store.selectRefreshToken_eq_some hselected
  obtain ⟨hhome, henvironment⟩ := Bool.and_eq_true_iff.1 hbelongs
  obtain ⟨hkind, hhost⟩ := authorityFor_kind_host l.authorityFor_eq
  exact ⟨rfl, rfl, hkind, hhost, token, hcached, hsecret, hhome, henvironment, hwanted⟩

/-- **Discipline with refresh tokens.** An acquisition for an account asks the identity provider at
most once, and only what is permitted with the document that the lookup read. It asks nothing if the
decision falls on the cached token, and nothing if it ends with something that is missing in the
cache. -/
theorem acquire_account_asks (app : Application) (account : Account) (scopes : Scopes)
    (force : Bool) (services : Services) (s : Session) :
    ∃ asked : List RefreshRequest,
      (app.acquire (.account account scopes force) services s).2.journal.exchanges =
          s.journal.exchanges ++ asked ∧
        asked.length ≤ 1 ∧
        (∀ request ∈ asked, ∃ authority metadata resolved cache,
          app.authorityFor account = .ok authority ∧
            app.resolve authority services s = (.ok metadata, resolved) ∧
            s.opened = .ok cache ∧
            app.Permits account scopes (accountAliases metadata resolved.discovery account)
              cache.store request) ∧
        (∀ miss, (app.acquire (.account account scopes force) services s).1 =
          .error (.cacheMiss miss) → asked = []) ∧
        ∀ authority metadata resolved cache r, app.authorityFor account = .ok authority →
          app.resolve authority services s = (.ok metadata, resolved) → s.opened = .ok cache →
          Decision.of (cache.store.findLatestAccessToken (app.accountQuery authority account scopes
            force (accountAliases metadata resolved.discovery account) s.now).accessTokenQuery)
              force s.now app.config.expiryBuffer = .cacheHit r → asked = [] := by
  rcases hrun : app.acquireFor account scopes force services s with ⟨result, t⟩
  have hacquire : app.acquire (.account account scopes force) services s = (result, t) := hrun
  rw [hacquire]
  rcases acquireFor_cases hrun with ⟨l, htake⟩ | ⟨_, hexchanges⟩
  · have hlookup : l.final.journal.exchanges = s.journal.exchanges :=
      l.surroundings.exchanges.trans (resolve_sameAccess l.resolve_eq).exchanges
    cases hoffer : l.offer with
    | hit found =>
      rw [hoffer] at htake
      cases htake
      exact ⟨[], by rw [hlookup, List.append_nil], by simp, by simp, fun _ _ => rfl,
        fun _ _ _ _ _ _ _ _ _ => rfl⟩
    | refresh plan =>
      rw [hoffer] at htake
      obtain ⟨hexchanges, hmiss⟩ := refresh_cases l.faultless_final htake
      refine ⟨_, hexchanges.trans (by rw [hlookup]), by simp, ?_, ?_, ?_⟩
      · intro request hrequest
        rw [List.mem_singleton.1 hrequest]
        exact ⟨l.authority, l.metadata, l.resolved, l.cache, l.authorityFor_eq, l.resolve_eq,
          l.opened_eq, l.permits_of_plan hoffer⟩
      · intro miss hcase
        exact absurd hcase (hmiss miss)
      · -- the plan rests on a decision to refresh, made on the same record
        intro authority metadata resolved cache r hauthority hresolve hopened hdecision
        cases hauthority.symm.trans l.authorityFor_eq
        cases hresolve.symm.trans l.resolve_eq
        cases hopened.symm.trans l.opened_eq
        have hplanned := l.offer_eq
        rw [hoffer] at hplanned
        cases hdecision.symm.trans (Store.offer_eq_refresh hplanned).1
  · exact ⟨[], by rw [hexchanges, List.append_nil], by simp, by simp, fun _ _ => rfl,
      fun _ _ _ _ _ _ _ _ _ => rfl⟩

end Application

end SilentAuth
