import SilentAuth.Proofs.Session.InMemory
import SilentAuth.Proofs.Silent.Reached

/-!
# What is written, and when nothing is

An application writes to a storage in memory only if new tokens were saved or an account was
removed. A call that returns an error, a cached token or a list of accounts leaves the persisted
text as it is, though others may have replaced it while the identity provider was asked. And where
the persisted text is malformed when a call is about to access the cache, the call ends there.

* `Action.invariant_tidy`, `Application.Reached.tidy`: a session that is reached is tidy.
* `Application.EndsQuietly`: how such a call ends; `Application.Unwritten`: what becomes of the
  session.
* `Application.Enters`: the sessions in which an operation begins to access the cache.
* `Application.unwritten_unless_issued`: nothing is written, and malformed texts end everything.
-/

namespace SilentAuth

open Session SilentAuth.Action

/-! ### Tidy sessions -/

/-- The answer to a refresh comes in with what others have persisted meanwhile, if anything. -/
theorem Action.exchange_tidy {request : RefreshRequest} {services : Services} {s t : Session}
    {answer : Except Error (Except ServiceError TokenResponse)} (hs : s.Tidy)
    (h : exchange request services s = (answer, t)) : t.Tidy := by
  rw [exchange_apply] at h
  obtain ⟨_, rfl⟩ := Prod.mk.inj h
  constructor
  · intro storage hstorage
    obtain ⟨before, hbefore, rfl⟩ := Option.map_eq_some_iff.1 hstorage
    cases (services.exchange s.journal.exchanges.length request).persisted with
    | none => exact hs.inMemory before hbefore
    | some content => exact (hs.inMemory before hbefore).overwrite content
  · intro hstorage
    exact hs.clean (by simpa using hstorage)

/-- Whatever an application does, a tidy session stays tidy. -/
theorem Action.invariant_tidy (services : Services) : Invariant services Session.Tidy where
  resolve := fun _ _ _ hs =>
    hs.of_same (resolve_sameAccess rfl).storage (resolve_sameAccess rfl).cache
  exchange := fun _ _ hs => exchange_tidy hs rfl
  withCache := fun _ _ _ _ hs => hs.withCache rfl
  wait := fun _ _ hs => hs.of_same rfl rfl

namespace Application

variable {app : Application} {services : Services} {s t u : Session} {account : Option Account}

/-- A session that is reached with a storage in memory, or without one, is tidy. -/
theorem Reached.tidy (hs : app.Reached Storage.InMemory s) : s.Tidy := by
  refine hs.holds ?_ (fun services op _ h => (invariant_tidy services).perform h op) ?_
  · intro s hcache _ hhook
    exact ⟨hhook, fun _ => by rw [hcache]; rfl⟩
  · intro s t hdisturbs h
    refine ⟨hdisturbs.hooked, ?_⟩
    rw [hdisturbs.cache, hdisturbs.storage]
    exact h.clean

/-! ### Calls that bring nothing new -/

/-- A call ends in a session with an error, with a token from the cache, or with a list of
accounts. -/
inductive EndsQuietly (app : Application) (services : Services) (s : Session) : Session → Prop
  | acquire {request : SilentRequest} {result : Except Error AuthResult} {t : Session}
    (run : app.acquire request services s = (result, t))
    (quiet : ∀ r, result = .ok r → r.source = .cache) : EndsQuietly app services s t
  | redeem {refreshToken : String} {scopes : Scopes} {result : Except Error AuthResult}
    {t : Session} (run : app.redeem refreshToken scopes services s = (result, t))
    (quiet : ∀ r, result = .ok r → r.source = .cache) : EndsQuietly app services s t
  | accounts {result : Except Error (List Account)} {t : Session}
    (run : app.accounts services s = (result, t)) : EndsQuietly app services s t

/-- What becomes of a session if nothing is written: the persisted text stays as it is, unless others
replaced it while the identity provider was asked, and the cache in memory is the one that was there
or the one that was persisted. -/
structure Unwritten (services : Services) (s t : Session) : Prop where
  persisted : t.storage = s.storage ∨ ∃ request content,
    t.journal.exchanges = s.journal.exchanges ++ [request] ∧
    (services.exchange s.journal.exchanges.length request).persisted = some content ∧
    t.storage = s.storage.map (·.overwrite content)
  cache : t.cache = s.cache ∨ s.Persists t.cache

namespace Unwritten

/-- Where the cache is only read, nothing is written. -/
theorem of_onlyRead (h : s.OnlyRead t) : Unwritten services s t := ⟨.inl h.storage, h.cache⟩

/-- Nothing is written while the identity provider is asked. -/
theorem of_exchange {request : RefreshRequest}
    {answer : Except Error (Except ServiceError TokenResponse)}
    (h : exchange request services s = (answer, t)) : Unwritten services s t := by
  rw [exchange_apply] at h
  obtain ⟨_, rfl⟩ := Prod.mk.inj h
  refine ⟨?_, .inl rfl⟩
  cases hpersisted : (services.exchange s.journal.exchanges.length request).persisted with
  | none => exact .inl (by simp)
  | some content => exact .inr ⟨request, content, rfl, hpersisted, rfl⟩

/-- Before that, the cache may be read. -/
theorem after_reading (h : s.OnlyRead t) (hexchanges : t.journal.exchanges = s.journal.exchanges)
    (h' : Unwritten services t u) : Unwritten services s u where
  persisted := by
    rw [← h.storage, ← hexchanges]
    exact h'.persisted
  cache := by
    rcases h'.cache with hcache | ⟨storage, text, hstorage, hpersists⟩
    · rw [hcache]
      exact h.cache
    · exact .inr ⟨storage, text, h.storage ▸ hstorage, hpersists⟩

/-- Afterwards, an access may begin. -/
theorem note (h : Unwritten services s t) (moment : Moment) (clientId : String)
    (account : Option Account) : Unwritten services s (t.note moment clientId account) := by
  obtain ⟨hpersisted, hcache⟩ := h
  rw [← note_storage moment clientId account t,
    ← (note_sameSurroundings moment clientId account t).exchanges] at hpersisted
  rw [← note_cache moment clientId account t] at hcache
  exact ⟨hpersisted, hcache⟩

end Unwritten

/-- An action that begins by resolving a host ends since the host is not trusted, or it goes on in a
tidy session in which nothing was read so far. -/
theorem resolve_bind_cases {α : Type} {a : Authority} {f : InstanceMetadata → Action α}
    {result : Except Error α} (hs : s.Tidy)
    (h : (app.resolve a >>= f) services s = (result, t)) :
    ((∃ source, result = .error (.authorityNotTrusted a.host source)) ∧ s.OnlyRead t) ∨
      ∃ metadata resolved, app.resolve a services s = (.ok metadata, resolved) ∧
        resolved.Tidy ∧ s.OnlyRead resolved ∧
        resolved.journal.exchanges = s.journal.exchanges ∧
        f metadata services resolved = (result, t) := by
  rcases bind_cases h with ⟨e, hresolve, rfl⟩ | ⟨metadata, resolved, hresolve, h⟩
  · have hsame := resolve_sameAccess hresolve
    obtain ⟨source, rfl⟩ := resolve_eq_error hresolve
    exact .inl ⟨⟨source, rfl⟩, .of_same hsame.storage hsame.cache⟩
  · have hsame := resolve_sameAccess hresolve
    exact .inr ⟨metadata, resolved, hresolve, hs.of_same hsame.storage hsame.cache,
      .of_same hsame.storage hsame.cache, hsame.exchanges, h⟩

/-- Caching a response writes nothing if it fails; else the new token is given. -/
theorem cacheResponse_writes {authority : Authority} {metadata : InstanceMetadata}
    {scopes : Scopes} {account : Option Account} {response : TokenResponse}
    {result : Except Error AuthResult} (hs : s.Tidy)
    (h : app.cacheResponse authority metadata scopes account response services s = (result, t)) :
    (∃ e, s.opened = .error e ∧ result = .error e ∧ t = s.note .before app.clientId account) ∨
      ∃ issued, result = .ok issued ∧ issued.source = .identityProvider := by
  unfold cacheResponse at h
  rw [view_bind] at h
  rcases bind_cases h with ⟨e, hsaving, rfl⟩ | ⟨_, _, _, hpure⟩
  · rcases hs.withCache_cases hsaving with ⟨_, hopened, herror, ht⟩ | ⟨_, _, hok, _⟩
    · cases herror
      exact .inl ⟨e, hopened, rfl, ht⟩
    · cases hok
  · cases hpure
    exact .inr ⟨_, rfl, rfl⟩

/-- A refresh that does not give a new token writes nothing. -/
theorem refresh_unwritten {authority : Authority} {metadata : InstanceMetadata}
    {account : Account} {scopes : Scopes} {plan : RefreshPlan} {result : Except Error AuthResult}
    (hs : s.Tidy)
    (h : app.refresh authority metadata account scopes plan services s = (result, t))
    (hquiet : ∀ r, result = .ok r → r.source = .cache) : Unwritten services s t := by
  obtain ⟨answer, asked, hexchange, h⟩ := exchange_bind_cases h
  have hasked := Unwritten.of_exchange hexchange
  cases answer with
  | error e =>
    obtain ⟨_, rfl⟩ := Prod.mk.inj h
    exact hasked
  | ok response =>
    rcases bind_cases h with ⟨e, hcached, rfl⟩ | ⟨refreshed, cached, hcached, h⟩
    · obtain ⟨e', hissued, _⟩ | ⟨_, _, _, hpure⟩ := bind_cases hcached
      · rcases cacheResponse_writes (exchange_tidy hs hexchange) hissued with
          ⟨_, _, _, rfl⟩ | ⟨_, hok, _⟩
        · exact hasked.note _ _ _
        · cases hok
      · cases hpure
    · obtain ⟨_, _, herror⟩ | ⟨issued, _, hissued, hpure⟩ := bind_cases hcached
      · cases herror
      · cases hpure
        rcases cacheResponse_writes (exchange_tidy hs hexchange) hissued with
          ⟨_, _, herror, _⟩ | ⟨_, hok, hsource⟩
        · cases herror
        · -- the new token is given, so the call is not one of those
          cases hok
          obtain ⟨rfl, _⟩ := Prod.mk.inj h
          cases (hquiet issued rfl).symm.trans hsource

/-- An acquisition for the application itself writes nothing. -/
theorem acquireOwn_unwritten {scopes : Scopes} {result : Except Error AuthResult} (hs : s.Tidy)
    (h : app.acquireOwn scopes services s = (result, t)) : Unwritten services s t := by
  rcases resolve_bind_cases hs h with ⟨_, hread⟩ | ⟨metadata, resolved, _, htidy, hread, _, h⟩
  · exact .of_onlyRead hread
  rw [view_bind] at h
  rcases bind_cases h with ⟨_, hreading, _⟩ | ⟨_, final, hreading, h⟩
  · exact .of_onlyRead (hread.trans (htidy.onlyRead_of_reading hreading))
  · obtain ⟨_, rfl⟩ := Prod.mk.inj h
    exact .of_onlyRead (hread.trans (htidy.onlyRead_of_reading hreading))

/-- An acquisition for an account that does not give a new token writes nothing. -/
theorem acquireFor_unwritten {account : Account} {scopes : Scopes} {force : Bool}
    {result : Except Error AuthResult} (hs : s.Tidy)
    (h : app.acquireFor account scopes force services s = (result, t))
    (hquiet : ∀ r, result = .ok r → r.source = .cache) : Unwritten services s t := by
  rcases bind_cases h with ⟨_, hauthority, _⟩ | ⟨authority, _, hauthority, h⟩
  · obtain ⟨_, rfl⟩ := Prod.mk.inj hauthority
    exact .of_onlyRead (.of_same rfl rfl)
  obtain ⟨_, rfl⟩ := Prod.mk.inj hauthority
  rcases resolve_bind_cases hs h with
    ⟨_, hresolved⟩ | ⟨metadata, resolved, _, htidy, hresolved, hexchanges, h⟩
  · exact .of_onlyRead hresolved
  rw [view_bind, view_bind] at h
  rcases bind_cases h with ⟨_, hreading, _⟩ | ⟨answer, final, hreading, h⟩
  · exact .of_onlyRead (hresolved.trans (htidy.onlyRead_of_reading hreading))
  have hread := hresolved.trans (htidy.onlyRead_of_reading hreading)
  rcases bind_cases h with ⟨_, hoffer, _⟩ | ⟨offer, _, hoffer, h⟩
  · obtain ⟨_, rfl⟩ := Prod.mk.inj hoffer
    exact .of_onlyRead hread
  obtain ⟨_, rfl⟩ := Prod.mk.inj hoffer
  cases offer with
  | hit result =>
    cases h
    exact .of_onlyRead hread
  | refresh plan =>
    have hfinal : final.journal.exchanges = s.journal.exchanges :=
      (withCache_sameSurroundings hreading).exchanges.trans hexchanges
    exact (refresh_unwritten (htidy.withCache hreading) h hquiet).after_reading hread hfinal

/-- A redemption that fails writes nothing. -/
theorem redeem_unwritten {refreshToken : String} {scopes : Scopes}
    {result : Except Error AuthResult} (hs : s.Tidy)
    (h : app.redeem refreshToken scopes services s = (result, t))
    (hquiet : ∀ r, result = .ok r → r.source = .cache) : Unwritten services s t := by
  rcases resolve_bind_cases hs h with
    ⟨_, hresolved⟩ | ⟨metadata, resolved, _, htidy, hresolved, hexchanges, h⟩
  · exact .of_onlyRead hresolved
  obtain ⟨answer, asked, hexchange, h⟩ := exchange_bind_cases h
  have hasked := (Unwritten.of_exchange hexchange).after_reading hresolved hexchanges
  rcases bind_cases h with ⟨_, hanswer, _⟩ | ⟨response, _, hanswer, h⟩
  · obtain ⟨_, rfl⟩ := Prod.mk.inj hanswer
    exact hasked
  obtain ⟨_, rfl⟩ := Prod.mk.inj hanswer
  rcases cacheResponse_writes (exchange_tidy htidy hexchange) h with
    ⟨_, _, _, rfl⟩ | ⟨issued, rfl, hsource⟩
  · exact hasked.note _ _ _
  · cases (hquiet issued rfl).symm.trans hsource

/-- Listing accounts writes nothing. -/
theorem accounts_unwritten {result : Except Error (List Account)} (hs : s.Tidy)
    (h : app.accounts services s = (result, t)) : Unwritten services s t := by
  rcases resolve_bind_cases hs h with ⟨_, hread⟩ | ⟨metadata, resolved, _, htidy, hread, _, h⟩
  · exact .of_onlyRead hread
  · exact .of_onlyRead (hread.trans (htidy.onlyRead_of_reading h))

/-- A call that brings nothing new writes nothing. -/
theorem EndsQuietly.unwritten (hs : s.Tidy) (h : app.EndsQuietly services s t) :
    Unwritten services s t := by
  cases h with
  | acquire run quiet =>
    rename_i request result
    cases request with
    | app scopes => exact acquireOwn_unwritten hs run
    | account account scopes force => exact acquireFor_unwritten hs run quiet
  | redeem run quiet => exact redeem_unwritten hs run quiet
  | accounts run => exact accounts_unwritten hs run

/-! ### Malformed texts -/

/-- The error of a result, if it is one. -/
def errorOf {α : Type} : Except Error α → Option Error
  | .ok _ => none
  | .error e => some e

/-- The error with which an operation ends, if it does. -/
def failure? (app : Application) (services : Services) (s : Session) : Operation → Option Error
  | .acquire request => errorOf (app.acquire request services s).1
  | .redeem refreshToken scopes => errorOf (app.redeem refreshToken scopes services s).1
  | .accounts => errorOf (app.accounts services s).1
  | .remove account => errorOf (app.removeAccount account services s).1
  | .wait _ => none

/-- How an operation ends whose action ends with an error. -/
theorem ends_of_run {α : Type} {x : Action α} {e : Error}
    (h : x services s = (.error e, u.note .before app.clientId account)) :
    errorOf (x services s).1 = some e ∧
      ∃ account, (x services s).2 = u.note .before app.clientId account := by
  rw [h]
  exact ⟨rfl, account, rfl⟩

/-- What a lookup for an account reads from the store. -/
def offerFor (app : Application) (authority : Authority) (metadata : InstanceMetadata)
    (account : Account) (scopes : Scopes) (force : Bool) (s : Session) :
    Action (Except CacheMiss Offer) :=
  reading app.clientId (some account) fun store => store.offer (app.accountQuery authority account
    scopes force (accountAliases metadata s.discovery account) s.now)

/-- The sessions in which an operation reaches the cache, that is, is about to access it: once the
host is resolved, or, to save the tokens of a response, once the response is in. -/
inductive Enters (app : Application) (services : Services) (s : Session) :
    Operation → Session → Prop
  | acquireOwn {scopes : Scopes} {metadata : InstanceMetadata} {u : Session}
    (resolved : app.resolve app.authority services s = (.ok metadata, u)) :
    Enters app services s (.acquire (.app scopes)) u
  | acquireFor {account : Account} {scopes : Scopes} {force : Bool} {authority : Authority}
    {metadata : InstanceMetadata} {u : Session}
    (asked : app.authorityFor account = .ok authority)
    (resolved : app.resolve authority services s = (.ok metadata, u)) :
    Enters app services s (.acquire (.account account scopes force)) u
  | refresh {account : Account} {scopes : Scopes} {force : Bool} {authority : Authority}
    {metadata : InstanceMetadata} {looking looked u : Session} {plan : RefreshPlan}
    {response : TokenResponse} (asked : app.authorityFor account = .ok authority)
    (resolved : app.resolve authority services s = (.ok metadata, looking))
    (offered : app.offerFor authority metadata account scopes force looking services looking =
      (.ok (.ok (.refresh plan)), looked))
    (answered : exchange (app.refreshRequest authority scopes plan.refreshToken) services looked =
      (.ok (.ok response), u)) : Enters app services s (.acquire (.account account scopes force)) u
  | redeem {refreshToken : String} {scopes : Scopes} {metadata : InstanceMetadata}
    {looking u : Session} {response : TokenResponse}
    (resolved : app.resolve app.authority services s = (.ok metadata, looking))
    (answered : exchange (app.refreshRequest app.authority scopes refreshToken) services looking =
      (.ok (.ok response), u)) : Enters app services s (.redeem refreshToken scopes) u
  | accounts {metadata : InstanceMetadata} {u : Session}
    (resolved : app.resolve app.authority services s = (.ok metadata, u)) :
    Enters app services s .accounts u
  | remove {account : Account} {metadata : InstanceMetadata} {u : Session}
    (resolved : app.resolve app.authority services s = (.ok metadata, u)) :
    Enters app services s (.remove account) u

/-- An operation on a tidy session reaches the cache in a tidy session. -/
theorem Enters.tidy {op : Operation} (hs : s.Tidy) (h : app.Enters services s op u) : u.Tidy := by
  have hresolved : ∀ {a metadata looking},
      app.resolve a services s = (.ok metadata, looking) → looking.Tidy :=
    fun hresolve => ((invariant_tidy services).resolve _ _).ends hs hresolve
  cases h with
  | acquireOwn resolved => exact hresolved resolved
  | acquireFor _ resolved => exact hresolved resolved
  | refresh _ resolved offered answered =>
    unfold offerFor at offered
    exact exchange_tidy ((hresolved resolved).withCache offered) answered
  | redeem resolved answered => exact exchange_tidy (hresolved resolved) answered
  | accounts resolved => exact hresolved resolved
  | remove resolved => exact hresolved resolved

/-- Caching a response ends where a malformed text is persisted. -/
theorem cacheResponse_of_malformed {authority : Authority} {metadata : InstanceMetadata}
    {scopes : Scopes} {account : Option Account} {response : TokenResponse} (hu : u.Tidy)
    (hmalformed : u.Malformed) :
    app.cacheResponse authority metadata scopes account response services u =
      (.error .malformedCacheData, u.note .before app.clientId account) := by
  unfold cacheResponse
  rw [view_bind]
  exact bind_of_eq_error (withCache_of_malformed hu hmalformed)

/-- **Malformed texts.** An operation that reaches the cache where a malformed text is persisted fails,
and nothing more happens than that the access is announced. -/
theorem Enters.ends {op : Operation} (hs : s.Tidy) (h : app.Enters services s op u)
    (hmalformed : u.Malformed) :
    app.failure? services s op = some .malformedCacheData ∧
      ∃ account, app.perform services s op = u.note .before app.clientId account := by
  have hu : u.Tidy := h.tidy hs
  cases h with
  | @acquireOwn scopes metadata _ resolved =>
    have hrun : app.acquireOwn scopes services s =
        (.error .malformedCacheData, u.note .before app.clientId none) := by
      unfold Application.acquireOwn
      rw [bind_of_eq_ok resolved, view_bind]
      exact bind_of_eq_error (withCache_of_malformed hu hmalformed)
    exact ends_of_run hrun
  | @acquireFor account scopes force authority metadata _ asked resolved =>
    have hrun : app.acquireFor account scopes force services s =
        (.error .malformedCacheData, u.note .before app.clientId (some account)) := by
      unfold Application.acquireFor
      rw [bind_of_eq_ok (ofExcept_eq_ok_iff.2 ⟨asked, rfl⟩), bind_of_eq_ok resolved, view_bind,
        view_bind]
      exact bind_of_eq_error (withCache_of_malformed hu hmalformed)
    exact ends_of_run hrun
  | @refresh account scopes force authority metadata looking looked _ plan response asked resolved
      offered answered =>
    unfold offerFor at offered
    have hrefresh : app.refresh authority metadata account scopes plan services looked =
        (.error .malformedCacheData, u.note .before app.clientId (some account)) := by
      unfold Application.refresh
      rw [bind_of_eq_ok answered]
      exact bind_of_eq_error (bind_of_eq_error (cacheResponse_of_malformed hu hmalformed))
    have hrun : app.acquireFor account scopes force services s =
        (.error .malformedCacheData, u.note .before app.clientId (some account)) := by
      unfold Application.acquireFor
      rw [bind_of_eq_ok (ofExcept_eq_ok_iff.2 ⟨asked, rfl⟩), bind_of_eq_ok resolved, view_bind,
        view_bind, bind_of_eq_ok offered]
      exact hrefresh
    exact ends_of_run hrun
  | @redeem refreshToken scopes metadata looking _ response resolved answered =>
    have hrun : app.redeem refreshToken scopes services s =
        (.error .malformedCacheData, u.note .before app.clientId none) := by
      unfold Application.redeem
      rw [bind_of_eq_ok resolved, bind_of_eq_ok answered]
      exact cacheResponse_of_malformed hu hmalformed
    exact ends_of_run hrun
  | accounts resolved =>
    have hrun : app.accounts services s =
        (.error .malformedCacheData, u.note .before app.clientId none) := by
      unfold Application.accounts
      rw [bind_of_eq_ok resolved]
      exact withCache_of_malformed hu hmalformed
    exact ends_of_run hrun
  | @remove account metadata _ resolved =>
    have hrun : app.removeAccount account services s =
        (.error .malformedCacheData, u.note .before app.clientId (some account)) := by
      unfold Application.removeAccount
      rw [bind_of_eq_ok resolved, view_bind]
      exact withCache_of_malformed hu hmalformed
    exact ends_of_run hrun

/-! ### Where a malformed text is the reason -/

/-- How an action ends that ends with an error. -/
theorem run_of_errorOf {α : Type} {x : Action α} {e : Error}
    (h : errorOf (x services s).1 = some e) : x services s = (.error e, (x services s).2) := by
  rcases hrun : x services s with ⟨_ | _, t⟩
  · rw [hrun] at h
    cases h
    rfl
  · rw [hrun] at h
    cases h

/-- A response cannot be cached where a malformed text is persisted. -/
theorem malformed_of_cacheResponse {authority : Authority} {metadata : InstanceMetadata}
    {scopes : Scopes} {account : Option Account} {response : TokenResponse} (hu : u.Tidy)
    (h : app.cacheResponse authority metadata scopes account response services u =
      (.error .malformedCacheData, t)) : u.Malformed := by
  rcases cacheResponse_writes hu h with ⟨_, hopened, herror, _⟩ | ⟨_, hok, _⟩
  · cases herror
    exact hu.opened_eq_malformed_iff.1 hopened
  · cases hok

/-- A refresh fails for a malformed text only if the response is in and cannot be cached. -/
theorem malformed_of_refresh {authority : Authority} {metadata : InstanceMetadata}
    {account : Account} {scopes : Scopes} {plan : RefreshPlan} (hs : s.Tidy)
    (h : app.refresh authority metadata account scopes plan services s =
      (.error .malformedCacheData, t)) :
    ∃ response u, exchange (app.refreshRequest authority scopes plan.refreshToken) services s =
      (.ok (.ok response), u) ∧ u.Malformed := by
  obtain ⟨answer, asked, hexchange, h⟩ := exchange_bind_cases h
  have hfailed : ∀ {refreshed : Except ServiceError AuthResult} {cached},
      Action.ofExcept ((concludeRefresh plan.reason plan.cached refreshed).map
        RefreshOutcome.result) services cached ≠ (.error .malformedCacheData, t) := by
    intro refreshed cached hconclude
    obtain ⟨_, _, herror⟩ := concludeRefresh_eq_error (Prod.mk.inj hconclude).1
    cases herror
  rcases bind_cases h with ⟨e, hcached, herror⟩ | ⟨_, _, _, hconclude⟩
  · cases herror
    cases answer with
    | error e => cases hcached
    | ok response =>
      rcases bind_cases hcached with ⟨_, hissued, herror⟩ | ⟨_, _, _, hpure⟩
      · cases herror
        exact ⟨response, asked, hexchange,
          malformed_of_cacheResponse (exchange_tidy hs hexchange) hissued⟩
      · cases hpure
  · exact absurd hconclude hfailed

/-- An acquisition for an account fails for a malformed text only if it reaches the cache where one
is persisted. -/
theorem enters_of_acquireFor {account : Account} {scopes : Scopes} {force : Bool} (hs : s.Tidy)
    (h : app.acquireFor account scopes force services s = (.error .malformedCacheData, t)) :
    ∃ u, app.Enters services s (.acquire (.account account scopes force)) u ∧ u.Malformed := by
  rcases bind_cases h with ⟨_, hauthority, herror⟩ | ⟨authority, _, hauthority, h⟩
  · cases herror
    obtain ⟨_, hinvalid⟩ := authorityFor_eq_error (Prod.mk.inj hauthority).1
    cases hinvalid
  obtain ⟨hasked, rfl⟩ := Prod.mk.inj hauthority
  rcases resolve_bind_cases hs h with
    ⟨⟨_, herror⟩, _⟩ | ⟨metadata, resolved, hresolve, htidy, _, _, h⟩
  · cases herror
  rw [view_bind, view_bind] at h
  rcases bind_cases h with ⟨_, hreading, herror⟩ | ⟨answer, final, hreading, h⟩
  · cases herror
    exact ⟨resolved, .acquireFor hasked hresolve, htidy.withCache_eq_malformed hreading⟩
  rcases bind_cases h with ⟨_, hoffer, herror⟩ | ⟨offer, _, hoffer, h⟩
  · cases herror
    cases answer <;> cases hoffer
  obtain ⟨hanswer, rfl⟩ := Prod.mk.inj hoffer
  cases offer with
  | hit result => cases h
  | refresh plan =>
    obtain ⟨response, u, hexchange, hmalformed⟩ :=
      malformed_of_refresh (htidy.withCache hreading) h
    cases answer with
    | error miss => cases hanswer
    | ok offer =>
      cases hanswer
      exact ⟨u, .refresh hasked hresolve hreading hexchange, hmalformed⟩

/-- So does an acquisition for the application itself. -/
theorem enters_of_acquireOwn {scopes : Scopes} (hs : s.Tidy)
    (h : app.acquireOwn scopes services s = (.error .malformedCacheData, t)) :
    ∃ u, app.Enters services s (.acquire (.app scopes)) u ∧ u.Malformed := by
  rcases resolve_bind_cases hs h with
    ⟨⟨_, herror⟩, _⟩ | ⟨metadata, resolved, hresolve, htidy, _, _, h⟩
  · cases herror
  rw [view_bind] at h
  rcases bind_cases h with ⟨_, hreading, herror⟩ | ⟨found, _, _, hfound⟩
  · cases herror
    exact ⟨resolved, .acquireOwn hresolve, htidy.withCache_eq_malformed hreading⟩
  · cases found <;> cases (Prod.mk.inj hfound).1

/-- And so does a redemption. -/
theorem enters_of_redeem {refreshToken : String} {scopes : Scopes} (hs : s.Tidy)
    (h : app.redeem refreshToken scopes services s = (.error .malformedCacheData, t)) :
    ∃ u, app.Enters services s (.redeem refreshToken scopes) u ∧ u.Malformed := by
  rcases resolve_bind_cases hs h with
    ⟨⟨_, herror⟩, _⟩ | ⟨metadata, resolved, hresolve, htidy, _, _, h⟩
  · cases herror
  obtain ⟨answer, asked, hexchange, h⟩ := exchange_bind_cases h
  cases answer with
  | error e =>
    obtain ⟨_, herror, hfailed⟩ | ⟨_, _, hresponse, _⟩ := bind_cases h
    · cases hfailed
      cases herror
    · cases hresponse
  | ok response =>
    obtain ⟨_, herror, _⟩ | ⟨_, _, hresponse, h⟩ := bind_cases h
    · cases herror
    · cases hresponse
      exact ⟨asked, .redeem hresolve hexchange,
        malformed_of_cacheResponse (exchange_tidy htidy hexchange) h⟩

/-- An operation fails for a malformed text only if it reaches the cache where one is persisted. -/
theorem exists_enters_of_failure {op : Operation} (hs : s.Tidy)
    (h : app.failure? services s op = some .malformedCacheData) :
    ∃ u, app.Enters services s op u ∧ u.Malformed := by
  cases op with
  | acquire request =>
    cases request with
    | app scopes => exact enters_of_acquireOwn hs (run_of_errorOf h)
    | account account scopes force => exact enters_of_acquireFor hs (run_of_errorOf h)
  | redeem refreshToken scopes => exact enters_of_redeem hs (run_of_errorOf h)
  | accounts =>
    rcases resolve_bind_cases hs (run_of_errorOf h) with
      ⟨⟨_, herror⟩, _⟩ | ⟨metadata, resolved, hresolve, htidy, _, _, hrun⟩
    · cases herror
    · exact ⟨resolved, .accounts hresolve, htidy.withCache_eq_malformed hrun⟩
  | remove account =>
    rcases resolve_bind_cases hs (run_of_errorOf h) with
      ⟨⟨_, herror⟩, _⟩ | ⟨metadata, resolved, hresolve, htidy, _, _, hrun⟩
    · cases herror
    · rw [view_bind] at hrun
      exact ⟨resolved, .remove hresolve, htidy.withCache_eq_malformed hrun⟩
  | wait now => cases h

/-- **What is written, and when nothing is.** In every session that an application reaches with a
storage in memory, or without one: a call that returns an error, a cached token or a list of accounts
writes nothing. An operation fails for a malformed text exactly if it reaches the cache where one is
persisted, and then no access takes place, whatever it would do: the operation ends there, and leaves
the cache in memory as it is. -/
theorem unwritten_unless_issued (hs : app.Reached Storage.InMemory s) (services : Services) :
    (∀ t, app.EndsQuietly services s t → Unwritten services s t) ∧
    (∀ op, app.failure? services s op = some .malformedCacheData ↔
      ∃ u, app.Enters services s op u ∧ u.Malformed) ∧
    ∀ op u, app.Enters services s op u → u.Malformed →
      (app.perform services s op).cache = u.cache ∧
      (∃ account, app.perform services s op = u.note .before app.clientId account) ∧
      ∀ (α : Type) clientId account (access : TokenCache → α × TokenCache),
        withCache clientId account access services u =
          (.error .malformedCacheData, u.note .before clientId account) := by
  have htidy := hs.tidy
  refine ⟨fun t ht => ht.unwritten htidy, ?_, ?_⟩
  · intro op
    constructor
    · exact exists_enters_of_failure htidy
    · rintro ⟨u, henters, hmalformed⟩
      exact (henters.ends htidy hmalformed).1
  · intro op u henters hmalformed
    obtain ⟨account, hends⟩ := (henters.ends htidy hmalformed).2
    refine ⟨?_, ⟨account, hends⟩, ?_⟩
    · rw [hends]
      exact note_cache _ _ _ _
    · intro α clientId account access
      exact withCache_of_malformed (henters.tidy htidy) hmalformed

namespace Sample

/-- An identity provider that issues tokens, while someone persists what is not a document. -/
def garbling : Services :=
  ⟨fun _ _ => none, fun _ _ => ⟨.ok welcome, some (.text "garbled"), ⟨5⟩⟩⟩

/-- A session in which nothing was persisted so far. -/
def vacant : Session := ⟨.new, .offline, ⟨1000⟩, some (.holding .nothing), .empty⟩

/-- The session in which the response is in. -/
def garbled : Session where
  cache := .new
  discovery := DiscoveryCache.offline.register (.forSelf "[::1]")
  now := ⟨1005⟩
  storage := some (.holding (.text "garbled"))
  journal := ⟨[], [application.refreshRequest application.authority .empty "rt"], []⟩

end Sample

/-- A refresh token is redeemed, but the new tokens cannot be cached, since the persisted text is
malformed by then. -/
theorem unwritten_unless_issued_garbled :
    Sample.application.Reached Storage.InMemory Sample.vacant ∧
      Sample.application.failure? Sample.garbling Sample.vacant (.redeem "rt" .empty) =
        some .malformedCacheData ∧
      (Sample.application.perform Sample.garbling Sample.vacant (.redeem "rt" .empty)).cache =
        .new ∧
      Unwritten Sample.garbling Sample.vacant
        (Sample.application.perform Sample.garbling Sample.vacant (.redeem "rt" .empty)) := by
  have hs : Sample.application.Reached Storage.InMemory Sample.vacant := by
    refine .start rfl .offline ?_
    intro storage hstorage
    exact ⟨.nothing, (Option.some.inj hstorage).symm⟩
  have henters : Sample.application.Enters Sample.garbling Sample.vacant (.redeem "rt" .empty)
      Sample.garbled := .redeem rfl rfl
  have hmalformed : Sample.garbled.Malformed := ⟨_, "garbled", rfl, rfl, by decide +kernel⟩
  obtain ⟨hquiet, hfails, hends⟩ := unwritten_unless_issued hs Sample.garbling
  have hfailure := (hfails _).2 ⟨_, henters, hmalformed⟩
  refine ⟨hs, hfailure, (hends _ _ henters hmalformed).1, ?_⟩
  apply hquiet
  refine .redeem (run_of_errorOf hfailure) ?_
  intro r hr
  cases hr

end Application

end SilentAuth
