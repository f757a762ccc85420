import SilentAuth.Proofs.Session.Rehosting
import SilentAuth.Proofs.Silent.Degradation

/-!
# Acquisitions under other names of an instance

An instance goes by several host names, and it makes no difference which of them an account names, nor
under which of them its records are cached. An acquisition in a session with rehosted records, for an
account under another name, sends the same request and ends with the same token or the same error. Two
runs are compared, step by step: looking hosts up keeps the sessions rehosted, reading the cache gives
the same offer and leaves sessions that fail alike, and that is enough for the rest.

* `Application.cacheResponse_alike`, `Application.refresh_alike`, `Application.take_alike`: what
  follows the offer.
* `Application.acquire_account_rehosted`: acquisitions under other names.
-/

namespace SilentAuth

open Session SilentAuth.Action

variable {services : Services} {s s' : Session}

/-- An account under another host of its instance. -/
def Account.withHost (account : Account) (name : String) : Account :=
  { account with environment := name }

namespace Application

variable {app : Application} {account : Account} {scopes : Scopes} {force : Bool} {name : String}

/-- Caching a response gives what changing the cache gives, with the new token, and leaves the session
that this leaves. -/
theorem cacheResponse_apply (authority : Authority) (metadata : InstanceMetadata)
    (account : Option Account) (response : TokenResponse) (services : Services) (s : Session) :
    app.cacheResponse authority metadata scopes account response services s =
      let issued := app.issued authority metadata scopes account response s.now
      let run := changing app.clientId account (fun _ => issued.account?) (·.saveResponse issued)
        services s
      (run.1.map (issuedResult scopes account · response), run.2) := by
  unfold cacheResponse
  rw [view_bind]
  dsimp only
  rcases hrun : changing app.clientId account
    (fun _ => (app.issued authority metadata scopes account response s.now).account?)
    (·.saveResponse (app.issued authority metadata scopes account response s.now)) services s with
    ⟨e | saved, t⟩
  · exact bind_of_eq_error hrun
  · exact bind_of_eq_ok hrun

/-- Caching a response gives the same in sessions that are alike, but for the host of the account. -/
theorem cacheResponse_alike (h : s.Alike s') (authority : Authority) (metadata : InstanceMetadata)
    (response : TokenResponse) :
    EndAlike AuthResult.hostless
      (app.cacheResponse authority metadata scopes (some account) response services s)
      (app.cacheResponse authority metadata scopes (some (account.withHost name)) response services
        s') := by
  let issued := app.issued authority metadata scopes (some account) response s.now
  let issued' := app.issued authority metadata scopes (some (account.withHost name)) response s.now
  -- who signed in is recorded under the host that the instance prefers
  have hsaved : issued'.account? = issued.account? := rfl
  have hchange := changing_alike h services app.clientId (some account)
    (some (account.withHost name)) hsaved (·.saveResponse issued) (·.saveResponse issued')
  rw [cacheResponse_apply, cacheResponse_apply, h.now]
  refine ⟨?_, hchange.exchanges⟩
  have hresult := hchange.result
  rw [Except.map_id, id, id] at hresult
  dsimp only
  rw [hresult]
  generalize (changing _ _ _ _ services s).1 = result
  cases result with
  | error e => rfl
  | ok saved => cases saved <;> rfl

/-- A failed refresh ends in the same way, but for the host of the account in what is kept. -/
theorem concludeRefresh_hostless (reason : RefreshReason) {cached cached' : Option AuthResult}
    (hcached : cached'.map AuthResult.hostless = cached.map AuthResult.hostless)
    (e : ServiceError) :
    ((concludeRefresh reason cached' (.error e)).map RefreshOutcome.result).map
        AuthResult.hostless =
      ((concludeRefresh reason cached (.error e)).map RefreshOutcome.result).map
        AuthResult.hostless := by
  cases cached with
  | none =>
    cases cached' with
    | none => rfl
    | some kept' => cases hcached
  | some kept =>
    cases cached' with
    | none => cases hcached
    | some kept' =>
      cases hsoft : reason.isSoft with
      | false => simp [concludeRefresh, hsoft]
      | true =>
        rw [concludeRefresh_of_soft hsoft, concludeRefresh_of_soft hsoft]
        exact congrArg Except.ok (Option.some.inj hcached)

/-- A refresh with the same refresh token gives the same in sessions that are alike, but for the host
of the account. -/
theorem refresh_alike (h : s.Alike s') (authority : Authority) (metadata : InstanceMetadata)
    {plan plan' : RefreshPlan}
    (hplan : (Offer.refresh plan').hostless = (Offer.refresh plan).hostless) :
    EndAlike AuthResult.hostless (app.refresh authority metadata account scopes plan services s)
      (app.refresh authority metadata (account.withHost name) scopes plan' services s') := by
  obtain ⟨reason, token, cached⟩ := plan
  obtain ⟨reason', token', cached'⟩ := plan'
  obtain ⟨rfl, rfl, hcached⟩ := RefreshPlan.mk.inj (Offer.refresh.inj hplan)
  have halike := exchange_alike h (app.refreshRequest authority scopes token') services
  cases hanswer : (services.exchange s.journal.exchanges.length
      (app.refreshRequest authority scopes token')).answer with
  | error e =>
    have hanswer' := hanswer
    rw [← h.exchanges] at hanswer'
    rw [refresh_of_failure hanswer, refresh_of_failure hanswer']
    exact ⟨concludeRefresh_hostless reason' hcached e, halike.exchanges⟩
  | ok response =>
    have hanswer' := hanswer
    rw [← h.exchanges] at hanswer'
    rw [refresh_of_response hanswer, refresh_of_response hanswer']
    exact cacheResponse_alike halike authority metadata response

/-- Taking an offer gives the same in sessions that are alike, but for the host of the account. -/
theorem take_alike (h : s.Alike s') (authority : Authority) (metadata : InstanceMetadata)
    {offer offer' : Offer} (hoffer : offer'.hostless = offer.hostless) :
    EndAlike AuthResult.hostless (app.take authority metadata account scopes offer services s)
      (app.take authority metadata (account.withHost name) scopes offer' services s') := by
  cases offer with
  | hit result =>
    cases offer' with
    | hit result' => exact ⟨congrArg Except.ok (Offer.hit.inj hoffer), h.exchanges⟩
    | refresh plan' => cases hoffer
  | refresh plan =>
    cases offer' with
    | hit result' => cases hoffer
    | refresh plan' => exact refresh_alike h authority metadata hoffer

/-- **Aliases make no difference.** Suppose the host of an account is one of the names of the instance
that is asked. Under another one of these names, and with any records of the instance recorded under
other names of it, in memory or in the storage, under the keys that they had, an acquisition sends the
same request, and it ends with the same error, or with the same access token, ID token, expiry, scopes
and source. -/
theorem acquire_account_rehosted {authority : Authority} {metadata : InstanceMetadata}
    {resolved : Session} (hauthority : app.authorityFor account = .ok authority)
    (hresolve : app.resolve authority services s = (.ok metadata, resolved))
    (haccount : metadata.hasAlias account.environment = true)
    (hname : metadata.hasAlias name = true) (hs : s.Rehosted metadata.aliases s') :
    let run := app.acquire (.account account scopes force) services s
    let run' := app.acquire (.account (account.withHost name) scopes force) services s'
    run'.1.map AuthResult.hostless = run.1.map AuthResult.hostless ∧
      run'.2.journal.exchanges = run.2.journal.exchanges := by
  suffices h : EndAlike AuthResult.hostless (app.acquireFor account scopes force services s)
      (app.acquireFor (account.withHost name) scopes force services s') from
    ⟨h.result, h.exchanges⟩
  have hauthority' : app.authorityFor (account.withHost name) = .ok authority := hauthority
  obtain ⟨resolved', hresolve', hresolved⟩ : ∃ resolved',
      app.resolve authority services s' = (.ok metadata, resolved') ∧
        resolved.Rehosted metadata.aliases resolved' := resolve_rehosted hs hresolve
  have haliases : accountAliases metadata resolved.discovery account = metadata.aliases :=
    if_pos haccount
  have haliases' : accountAliases metadata resolved'.discovery (account.withHost name) =
      metadata.aliases := if_pos hname
  unfold acquireFor
  rw [bind_of_eq_ok (ofExcept_eq_ok_iff.2 ⟨hauthority, rfl⟩),
    bind_of_eq_ok (ofExcept_eq_ok_iff.2 ⟨hauthority', rfl⟩), bind_of_eq_ok hresolve,
    bind_of_eq_ok hresolve', view_bind, view_bind, view_bind, view_bind, haliases, haliases',
    hresolved.now]
  obtain ⟨hoffers, hread⟩ := reading_rehosted hresolved services app.clientId
    (some account) (some (account.withHost name)) (Except.map Offer.hostless)
    fun store store' (h : Store.Rehosted (app.accountQuery authority account scopes force
      metadata.aliases resolved.now).aliases store store') => h.offer_eq name
  refine EndAlike.bind hoffers hread ?_
  intro offer offer' t t' hoffer h
  refine EndAlike.bind (map_mapError_congr hoffer .cacheMiss) h ?_
  intro offer offer' t t' hoffer h
  exact take_alike h authority metadata hoffer

namespace Sample

/-- The directory and its mirror, which are one instance. -/
def mirrored : InstanceMetadata := ⟨"[::1]", "[::1]", ["[::1]", "mirror.example"]⟩

/-- A session in which the mirror is known. -/
def mirroring : Session := { session with discovery := .ofMetadata [mirrored] }

/-- The credentials of the user, recorded under the mirror with the keys that they had. -/
def mirroredStore : Store := { store with
  accessTokens := store.accessTokens.mapValues (HostedRecord.withHost · "mirror.example")
  refreshTokens := store.refreshTokens.mapValues (HostedRecord.withHost · "mirror.example")
  accounts := store.accounts.mapValues (HostedRecord.withHost · "mirror.example") }

/-- The session with these credentials. -/
def moved : Session := { mirroring with cache := ⟨mirroredStore, none, false⟩ }

/-- The session differs in the hosts of the records. -/
theorem mirroring_rehosted : mirroring.Rehosted mirrored.aliases moved := by
  refine ⟨⟨?_, .none, rfl⟩, .none, rfl, rfl, rfl⟩
  have hname : listed "mirror.example" mirrored.aliases = true := by decide
  refine ⟨.mapValues hname ?_, .mapValues hname ?_, .refl _ _, .mapValues hname ?_, .refl _ _, rfl⟩ <;>
    decide +kernel

end Sample

/-- The provider is down when the due token of a user should be renewed, whose records are under the
mirror, and who is named by it: the due token is returned, as if none of that were so. -/
theorem acquire_account_rehosted_mirrored :
    let run := Sample.application.acquire (.account Sample.account (.ofText "read") false) Sample.down
      Sample.mirroring
    let run' := Sample.application.acquire
      (.account (Sample.account.withHost "mirror.example") (.ofText "read") false) Sample.down
      Sample.moved
    (run.1.map AuthResult.accessToken = .ok "at" ∧ run.2.journal.exchanges.length = 1) ∧
      run'.1.map AuthResult.hostless = run.1.map AuthResult.hostless ∧
      run'.2.journal.exchanges = run.2.journal.exchanges := by
  have hauthority : Sample.application.authorityFor Sample.account = .ok Sample.directory := by
    decide +kernel
  have hresolve : Sample.application.resolve Sample.directory Sample.down Sample.mirroring =
      (.ok Sample.mirrored, Sample.mirroring) := rfl
  refine ⟨by decide +kernel, ?_⟩
  exact acquire_account_rehosted hauthority hresolve (by decide) (by decide)
    Sample.mirroring_rehosted

end Application

end SilentAuth
