import SilentAuth.Proofs.Silent.Asking

/-!
# Refreshes that fail

When the identity provider fails to answer a refresh, an application falls back on the token that it
has cached, if it may: no new token was demanded, and the longest-lived match was usable when the
lookup was made. In every other case it reports the failure as it is. The reason for a refresh, the
token that its plan keeps and the end of the refresh are three places that have to agree on this.

* `Store.cached_of_offer_eq_refresh`: which token a plan keeps.
* `Application.Spare`: which token an application may fall back on.
* `Application.acquire_account_failed`: an acquisition whose refresh fails gives the spare token, or
  the failure if there is none.
-/

namespace SilentAuth

open Session SilentAuth.Action

/-- A plan keeps the longest-lived match if the refresh is a precaution, and nothing otherwise. -/
theorem Store.cached_of_offer_eq_refresh {store : Store} {q : AccountQuery} {plan : RefreshPlan}
    (h : store.offer q = .ok (.refresh plan)) :
    ∃ idToken account, plan.cached =
      if plan.reason.isSoft then
        (store.findLatestAccessToken q.accessTokenQuery).map (.ofCache · idToken account)
      else none := by
  unfold Store.offer at h
  split at h
  · cases h
  dsimp only at h
  split at h
  · cases h
  unfold Store.planRefresh at h
  split at h
  · cases h
  · cases h
    exact ⟨_, _, rfl⟩

/-- A failed refresh gives the cached token that the plan keeps if the refresh was a precaution. -/
theorem concludeRefresh_of_soft {reason : RefreshReason} {kept : AuthResult} {e : ServiceError}
    (h : reason.isSoft = true) :
    (concludeRefresh reason (some kept) (.error e)).map RefreshOutcome.result = .ok kept := by
  simp [concludeRefresh, h, Except.map, RefreshOutcome.result]

/-- A failed refresh that keeps no token ends with the failure. -/
theorem concludeRefresh_of_none {reason : RefreshReason} {e : ServiceError} :
    (concludeRefresh reason none (.error e)).map RefreshOutcome.result = .error (.service e) := rfl

namespace Application

variable {app : Application} {account : Account} {scopes : Scopes} {force : Bool}
  {services : Services} {s : Session}

/-! ### The end of a refresh that fails -/

section

variable {authority : Authority} {metadata : InstanceMetadata} {plan : RefreshPlan}

/-- A refresh that the identity provider fails to answer ends with what the plan makes of the
failure. -/
theorem refresh_of_failure {e : ServiceError}
    (h : (services.exchange s.journal.exchanges.length
      (app.refreshRequest authority scopes plan.refreshToken)).answer = .error e) :
    app.refresh authority metadata account scopes plan services s =
      ((concludeRefresh plan.reason plan.cached (.error e)).map RefreshOutcome.result,
        (exchange (app.refreshRequest authority scopes plan.refreshToken) services s).2) := by
  have hexchange : exchange (app.refreshRequest authority scopes plan.refreshToken) services s =
      (.ok (.error e),
        (exchange (app.refreshRequest authority scopes plan.refreshToken) services s).2) :=
    Prod.ext (congrArg Except.ok h) rfl
  unfold refresh
  rw [bind_of_eq_ok hexchange]
  rfl

/-- A refresh that is answered with tokens ends with caching them. -/
theorem refresh_of_response {response : TokenResponse}
    (h : (services.exchange s.journal.exchanges.length
      (app.refreshRequest authority scopes plan.refreshToken)).answer = .ok response) :
    app.refresh authority metadata account scopes plan services s =
      app.cacheResponse authority metadata scopes (some account) response services
        (exchange (app.refreshRequest authority scopes plan.refreshToken) services s).2 := by
  have hexchange : exchange (app.refreshRequest authority scopes plan.refreshToken) services s =
      (.ok (.ok response),
        (exchange (app.refreshRequest authority scopes plan.refreshToken) services s).2) :=
    Prod.ext (congrArg Except.ok h) rfl
  unfold refresh
  rw [bind_of_eq_ok hexchange]
  rcases hcached : app.cacheResponse authority metadata scopes (some account) response services
    (exchange (app.refreshRequest authority scopes plan.refreshToken) services s).2 with
    ⟨e | issued, t⟩
  · exact bind_of_eq_error (bind_of_eq_error hcached)
  · have hanswer : app.cacheAnswer authority metadata account scopes (.ok response) services
        (exchange (app.refreshRequest authority scopes plan.refreshToken) services s).2 =
          (.ok (.ok issued), t) := bind_of_eq_ok hcached
    exact bind_of_eq_ok hanswer

end

/-- A token that an application may fall back on at a time, where `authority` is asked and the account
may be cached under `aliases`: no new token was demanded, and it is the longest-lived match of a store
and usable. -/
structure Spare (app : Application) (account : Account) (scopes : Scopes) (force : Bool)
    (authority : Authority) (aliases : List String) (now : UnixTime) (store : Store)
    (r : AccessTokenRecord) : Prop where
  unforced : force = false
  longestLived : store.findLatestAccessToken
    (app.accountQuery authority account scopes force aliases now).accessTokenQuery = some r
  usable : r.UsableAt now app.config.expiryBuffer

/-- A plan made where there is a spare token is a precaution. -/
theorem Lookup.soft_of_spare (l : app.Lookup account scopes force services s) {plan : RefreshPlan}
    {r : AccessTokenRecord} (hplan : l.offer = .refresh plan)
    (hspare : app.Spare account scopes force l.authority l.aliases s.now l.cache.store r) :
    plan.reason.isSoft = true := by
  have hoffer := l.offer_eq
  rw [hplan] at hoffer
  obtain ⟨hdecision, _⟩ := Store.offer_eq_refresh hoffer
  have hfound := hspare.longestLived
  apply RefreshReason.isSoft_iff.2
  cases hdue : r.refreshDueAt s.now with
  | true =>
    have hprecaution :=
      Decision.of_eq_refreshOn_iff.2 ⟨r, hfound, hspare.unforced, hspare.usable, hdue⟩
    exact Decision.needsRefresh.inj (hdecision.symm.trans hprecaution)
  | false =>
    -- a usable token that is not due would have been a hit
    have hhit := Decision.of_eq_cacheHit_iff.2 ⟨hfound, hspare.unforced, hspare.usable, hdue⟩
    cases hdecision.symm.trans hhit

/-- A precaution is planned only where there is a spare token. -/
theorem Lookup.exists_spare_of_soft (l : app.Lookup account scopes force services s)
    {plan : RefreshPlan} (hplan : l.offer = .refresh plan) (hsoft : plan.reason.isSoft = true) :
    ∃ r, app.Spare account scopes force l.authority l.aliases s.now l.cache.store r := by
  have hoffer := l.offer_eq
  rw [hplan] at hoffer
  obtain ⟨hdecision, _⟩ := Store.offer_eq_refresh hoffer
  rw [RefreshReason.isSoft_iff.1 hsoft] at hdecision
  obtain ⟨r, hfound, hforce, husable, _⟩ := Decision.of_eq_refreshOn_iff.1 hdecision
  exact ⟨r, hforce, hfound, husable⟩

/-- An acquisition that asks the identity provider follows the plan of its lookup. -/
theorem exists_plan_of_asked {request : RefreshRequest}
    (hasked : (app.acquire (.account account scopes force) services s).2.journal.exchanges =
      s.journal.exchanges ++ [request]) :
    ∃ (l : app.Lookup account scopes force services s) (plan : RefreshPlan),
      l.offer = .refresh plan ∧
        l.final.journal.exchanges = s.journal.exchanges ∧
        request = app.refreshRequest l.authority scopes plan.refreshToken ∧
        app.acquire (.account account scopes force) services s =
          app.refresh l.authority l.metadata account scopes plan services l.final := by
  rcases hrun : app.acquireFor account scopes force services s with ⟨result, t⟩
  have hacquire : app.acquire (.account account scopes force) services s = (result, t) := hrun
  rw [hacquire] at hasked ⊢
  rcases acquireFor_cases hrun with ⟨l, htake⟩ | ⟨_, hquiet⟩
  · have hlookup : l.final.journal.exchanges = s.journal.exchanges :=
      l.surroundings.exchanges.trans (resolve_sameAccess l.resolve_eq).exchanges
    cases hoffer : l.offer with
    | hit found =>
      rw [hoffer] at htake
      cases htake
      simp [hlookup] at hasked
    | refresh plan =>
      rw [hoffer] at htake
      obtain ⟨hexchanges, _⟩ := refresh_cases l.faultless_final htake
      rw [hexchanges, hlookup] at hasked
      have hrequest := List.singleton_inj.1 (List.append_cancel_left hasked)
      exact ⟨l, plan, hoffer, hlookup, hrequest.symm, htake.symm⟩
  · simp [hquiet] at hasked

/-- **Degradation exactly when allowed.** Suppose an acquisition for an account asks the identity
provider, and that fails. If the store that the lookup read has a token to fall back on, then the
result is that token, with its own secret, expiry and scopes; otherwise it is the failure, unchanged. -/
theorem acquire_account_failed {request : RefreshRequest} {e : ServiceError}
    (hasked : (app.acquire (.account account scopes force) services s).2.journal.exchanges =
      s.journal.exchanges ++ [request])
    (hfailed : (services.exchange s.journal.exchanges.length request).answer = .error e) :
    ∃ authority metadata resolved cache,
      app.authorityFor account = .ok authority ∧
        app.resolve authority services s = (.ok metadata, resolved) ∧
        s.opened = .ok cache ∧
        (∀ r, app.Spare account scopes force authority
            (accountAliases metadata resolved.discovery account) s.now cache.store r →
          ∃ result, (app.acquire (.account account scopes force) services s).1 = .ok result ∧
            result.accessToken = r.secret ∧ result.expiresOn = r.expiresOn ∧
            result.scopes = r.target ∧ result.source = .cache) ∧
        ((∀ r, ¬ app.Spare account scopes force authority
            (accountAliases metadata resolved.discovery account) s.now cache.store r) →
          (app.acquire (.account account scopes force) services s).1 = .error (.service e)) := by
  obtain ⟨l, plan, hplan, hlookup, hrequest, hrun⟩ := exists_plan_of_asked hasked
  have hoffer := l.offer_eq
  rw [hplan] at hoffer
  obtain ⟨idToken, known, hcached⟩ := Store.cached_of_offer_eq_refresh hoffer
  have hresult : (app.acquire (.account account scopes force) services s).1 =
      (concludeRefresh plan.reason plan.cached (.error e)).map RefreshOutcome.result := by
    have hanswer : (services.exchange l.final.journal.exchanges.length
        (app.refreshRequest l.authority scopes plan.refreshToken)).answer = .error e := by
      rw [hlookup, ← hrequest]
      exact hfailed
    rw [hrun, refresh_of_failure hanswer]
  refine ⟨l.authority, l.metadata, l.resolved, l.cache, l.authorityFor_eq, l.resolve_eq,
    l.opened_eq, ?_, ?_⟩
  · intro r hspare
    have hsoft := l.soft_of_spare hplan hspare
    have hfound := hspare.longestLived
    have hkept : plan.cached = some (.ofCache r idToken known) := by
      rw [hcached, if_pos hsoft, hfound, Option.map_some]
    refine ⟨.ofCache r idToken known, ?_, rfl, rfl, rfl, rfl⟩
    rw [hresult, hkept]
    exact concludeRefresh_of_soft hsoft
  · intro hnone
    have hhard : ¬ plan.reason.isSoft = true := by
      intro hsoft
      obtain ⟨r, hspare⟩ := l.exists_spare_of_soft hplan hsoft
      exact hnone r hspare
    have hkept : plan.cached = none := by
      rw [hcached, if_neg hhard]
    rw [hresult, hkept]
    exact concludeRefresh_of_none

namespace Sample

/-- The authority of the user's directory. -/
def directory : Authority := Authority.Sample.directory "utid" ["utid"]

end Sample

/-- The provider is down when the due token of a user should be renewed: unforced, the due token is
returned; forced, the failure is. -/
theorem acquire_account_failed_down :
    (∃ result, (Sample.application.acquire (.account Sample.account (.ofText "read") false)
        Sample.down Sample.session).1 = .ok result ∧ result.accessToken = "at" ∧
        result.source = .cache) ∧
      (Sample.application.acquire (.account Sample.account (.ofText "read") true)
        Sample.down Sample.session).1 = .error (.service (.withStatus 503)) := by
  have hauthorityFor :
      Sample.application.authorityFor Sample.account = .ok Sample.directory := by
    decide +kernel
  have hasked : ∀ force, ∃ request, (Sample.application.acquire
      (.account Sample.account (.ofText "read") force) Sample.down
        Sample.session).2.journal.exchanges =
          Sample.session.journal.exchanges ++ [request] := by
    intro force
    apply List.length_eq_one_iff.1
    revert force
    decide +kernel
  constructor
  · obtain ⟨_, hrequest⟩ := hasked false
    obtain ⟨authority, metadata, resolved, cache, hauthority, hresolve, hopened, hspare, _⟩ :=
      acquire_account_failed hrequest rfl
    cases hauthorityFor.symm.trans hauthority
    cases hresolve
    cases hopened
    obtain ⟨result, hresult, htoken, _, _, hsource⟩ :=
      hspare Sample.dueToken ⟨rfl, rfl, ⟨by decide, by decide⟩⟩
    exact ⟨result, hresult, htoken, hsource⟩
  · obtain ⟨_, hrequest⟩ := hasked true
    obtain ⟨_, _, _, _, _, _, _, _, hfailure⟩ := acquire_account_failed hrequest rfl
    apply hfailure
    intro r hspare
    cases hspare.unforced

end Application

end SilentAuth
