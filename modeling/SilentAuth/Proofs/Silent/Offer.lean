import SilentAuth.Plan
import SilentAuth.Proofs.Cache.Lookup

/-!
# What decisions and offers rest on

A decision to return the cached token, and one to refresh it only as a precaution, rest on the same
facts about it: `AccessTokenRecord.UsableAt` names them. An offer adds where its tokens come from.

* `Decision.of_eq_cacheHit_iff`, `Decision.of_eq_refreshOn_iff`: the two decisions that let the
  cached token be returned.
* `Store.offer_eq_hit`, `Store.offer_of_cacheHit`: where the token of a hit comes from, and when
  there is a hit.
* `Store.offer_eq_refresh`: where the two tokens of a plan come from.
-/

namespace SilentAuth

/-! ### Usable tokens -/

/-- A token that may be returned at a time: it is not blank, and valid for longer than the buffer.
The sum is that of natural numbers. -/
structure AccessTokenRecord.UsableAt (r : AccessTokenRecord) (now : UnixTime) (buffer : Span) :
    Prop where
  secret_ne : r.secret ≠ ""
  unexpired : now.seconds.toNat + buffer.seconds.toNat < r.expiresOn.seconds.toNat

/-- The cached token is returned exactly if it is usable, no new one is demanded, and it is not yet
due for a refresh. -/
theorem Decision.of_eq_cacheHit_iff {token : Option AccessTokenRecord} {force : Bool}
    {now : UnixTime} {buffer : Span} {r : AccessTokenRecord} :
    Decision.of token force now buffer = .cacheHit r ↔
      token = some r ∧ force = false ∧ r.UsableAt now buffer ∧ r.refreshDueAt now = false := by
  cases token with
  | none => simp [Decision.of]
  | some found =>
    have hvalid : found.validAt (now.after buffer) = true ↔
        now.seconds.toNat + buffer.seconds.toNat < found.expiresOn.seconds.toNat :=
      UnixTime.after_before_iff
    constructor
    · intro h
      simp only [Decision.of] at h
      split at h
      · cases h
      split at h
      · cases h
      split at h
      · cases h
      split at h
      · cases h
      rename_i hsecret hv hforce hdue
      cases h
      exact ⟨rfl, by simpa using hforce, ⟨hsecret, hvalid.1 (by simpa using hv)⟩,
        by simpa using hdue⟩
    · rintro ⟨hfound, rfl, husable, hdue⟩
      cases hfound
      simp [Decision.of, husable.secret_ne, hvalid.2 husable.unexpired, hdue]

/-- A refresh is a precaution exactly if the cached token is usable, no new one is demanded, and it
is due for a refresh. -/
theorem Decision.of_eq_refreshOn_iff {token : Option AccessTokenRecord} {force : Bool}
    {now : UnixTime} {buffer : Span} :
    Decision.of token force now buffer = .needsRefresh .refreshOn ↔
      ∃ r, token = some r ∧ force = false ∧ r.UsableAt now buffer ∧ r.refreshDueAt now = true := by
  cases token with
  | none => simp [Decision.of]
  | some found =>
    have hvalid : found.validAt (now.after buffer) = true ↔
        now.seconds.toNat + buffer.seconds.toNat < found.expiresOn.seconds.toNat :=
      UnixTime.after_before_iff
    constructor
    · intro h
      simp only [Decision.of] at h
      split at h
      · cases h
      split at h
      · cases h
      split at h
      · cases h
      split at h
      · rename_i hsecret hv hforce hdue
        exact ⟨found, rfl, by simpa using hforce, ⟨hsecret, hvalid.1 (by simpa using hv)⟩, hdue⟩
      · cases h
    · rintro ⟨r, hfound, rfl, husable, hdue⟩
      cases hfound
      simp [Decision.of, husable.secret_ne, hvalid.2 husable.unexpired, hdue]

/-- Only precautions are soft. -/
theorem RefreshReason.isSoft_iff {reason : RefreshReason} :
    reason.isSoft = true ↔ reason = .refreshOn := by
  simp [RefreshReason.isSoft]

/-! ### Offers -/

namespace Store

/-- The token of a hit is that of the longest-lived match, on which the decision fell. -/
theorem offer_eq_hit {s : Store} {q : AccountQuery} {result : AuthResult}
    (h : s.offer q = .ok (.hit result)) :
    ∃ r, s.findLatestAccessToken q.accessTokenQuery = some r ∧
      Decision.of (some r) q.forceRefresh q.now q.buffer = .cacheHit r ∧
      ∃ idToken account, result = .ofCache r idToken account := by
  unfold offer at h
  split at h
  · cases h
  · rename_i record _
    dsimp only at h
    split at h
    · rename_i r hdecision
      cases h
      have hfound := (Decision.of_eq_cacheHit_iff.1 hdecision).1
      exact ⟨r, hfound, hfound ▸ hdecision, _, _, rfl⟩
    · rename_i reason _
      cases hplan : s.planRefresh q reason _ <;> rw [hplan] at h <;> cases h

/-- A plan follows the decision, redeems the selected refresh token, and keeps only a cached token
that may be returned as it is: that of the longest-lived match, if the refresh is a precaution. -/
theorem offer_eq_refresh {s : Store} {q : AccountQuery} {plan : RefreshPlan}
    (h : s.offer q = .ok (.refresh plan)) :
    Decision.of (s.findLatestAccessToken q.accessTokenQuery) q.forceRefresh q.now q.buffer =
        .needsRefresh plan.reason ∧
      (∃ token, s.selectRefreshToken q.account.homeAccountId q.clientId q.aliases = some token ∧
        plan.refreshToken = token.secret) ∧
      ∀ cached, plan.cached = some cached → plan.reason.isSoft = true ∧
        ∃ r, s.findLatestAccessToken q.accessTokenQuery = some r ∧
          ∃ idToken account, cached = .ofCache r idToken account := by
  unfold offer at h
  split at h
  · cases h
  · dsimp only at h
    split at h
    · cases h
    · rename_i reason hdecision
      unfold planRefresh at h
      split at h
      · cases h
      · rename_i token htoken
        cases h
        refine ⟨hdecision, ⟨token, htoken, rfl⟩, ?_⟩
        intro cached hcached
        dsimp only at hcached
        split at hcached
        · rename_i hsoft
          obtain ⟨r, hr, rfl⟩ := Option.map_eq_some_iff.1 hcached
          exact ⟨hsoft, r, hr, _, _, rfl⟩
        · cases hcached

/-- An offer is made only to an account that has a record. -/
theorem accountFor_of_offer_eq_ok {s : Store} {q : AccountQuery} {offer : Offer}
    (h : s.offer q = .ok offer) : (s.accountFor q).isSome = true := by
  unfold Store.offer at h
  split at h
  · cases h
  · rename_i record hrecord
    rw [hrecord]
    rfl

/-- It is the account that is missed exactly if it has no record. -/
theorem offer_eq_noAccount_iff {s : Store} {q : AccountQuery} :
    s.offer q = .error .noAccount ↔ s.accountFor q = none := by
  unfold offer
  cases hrecord : s.accountFor q with
  | none => simp
  | some record =>
    simp only [reduceCtorEq, iff_false]
    intro h
    split at h
    · cases h
    · rename_i reason _
      unfold planRefresh at h
      split at h <;> cases h

/-- An account that has a record gets the longest-lived match if the decision falls on it. -/
theorem offer_of_cacheHit {s : Store} {q : AccountQuery} {r : AccessTokenRecord}
    (haccount : (s.accountFor q).isSome = true)
    (hfound : s.findLatestAccessToken q.accessTokenQuery = some r)
    (hdecision : Decision.of (some r) q.forceRefresh q.now q.buffer = .cacheHit r) :
    ∃ idToken account, s.offer q = .ok (.hit (.ofCache r idToken account)) := by
  obtain ⟨record, hrecord⟩ := Option.isSome_iff_exists.1 haccount
  unfold offer
  rw [hrecord, hfound]
  simp only [hdecision]
  exact ⟨_, _, rfl⟩

end Store

end SilentAuth
