import SilentAuth.Proofs.Silent.Offer

/-!
# Two ways to a usable token

A token of the application itself is the first match that stays valid for the buffer. For an account
the match that expires last is looked up, valid or not, and a decision falls on it. Both see the same
matches and count the time without bounds, so they agree on whether there is a usable token, with one
exception: a blank token counts as none for a decision, but is a match like any other.

* `Decision.ReliesOnCache`: decisions for which the cached token is good enough.
* `Store.findAccessToken_isSome_iff`: when the first way leads to a token.
* `Store.usable_paths_agree_iff`: when both ways agree.
-/

namespace SilentAuth

/-! ### Decisions -/

/-- Decisions for which the cached token is good enough: it is returned, or it is there to fall back
on, if the refresh is a precaution. -/
inductive Decision.ReliesOnCache : Decision → Prop
  | cacheHit (r : AccessTokenRecord) : ReliesOnCache (.cacheHit r)
  | refreshOn : ReliesOnCache (.needsRefresh .refreshOn)

/-- A decision relies on the cached token exactly if that is usable, unless a new one is demanded. -/
theorem Decision.reliesOnCache_of_iff {token : Option AccessTokenRecord} {now : UnixTime}
    {buffer : Span} : (Decision.of token false now buffer).ReliesOnCache ↔
      ∃ r, token = some r ∧ r.UsableAt now buffer := by
  constructor
  · intro h
    generalize hdecision : Decision.of token false now buffer = decision at h
    cases h with
    | cacheHit r =>
      obtain ⟨htoken, _, husable, _⟩ := of_eq_cacheHit_iff.1 hdecision
      exact ⟨r, htoken, husable⟩
    | refreshOn =>
      obtain ⟨r, htoken, _, husable, _⟩ := of_eq_refreshOn_iff.1 hdecision
      exact ⟨r, htoken, husable⟩
  · rintro ⟨r, rfl, husable⟩
    cases hdue : r.refreshDueAt now with
    | false =>
      rw [of_eq_cacheHit_iff.2 ⟨rfl, rfl, husable, hdue⟩]
      exact .cacheHit r
    | true =>
      rw [of_eq_refreshOn_iff.2 ⟨r, rfl, rfl, husable, hdue⟩]
      exact .refreshOn

/-! ### Lookups -/

/-- What a query asks for beyond a match: the record is valid for longer than the buffer. The sum is
that of natural numbers. -/
def AccessTokenQuery.Outlived (q : AccessTokenQuery) (r : AccessTokenRecord) : Prop :=
  q.now.seconds.toNat + q.buffer.seconds.toNat < r.expiresOn.seconds.toNat

/-- A record is valid past the buffer exactly if it outlives what the query asks for. -/
theorem AccessTokenQuery.validAt_iff {q : AccessTokenQuery} {r : AccessTokenRecord} :
    r.validAt (q.now.after q.buffer) = true ↔ q.Outlived r :=
  UnixTime.after_before_iff

namespace Store

/-- A valid match is found exactly if the match that expires last is valid: none expires later, and
so none is valid if this one is not. -/
theorem findAccessToken_isSome_iff {s : Store} {q : AccessTokenQuery} :
    (s.findAccessToken q).isSome = true ↔
      ∃ r, s.findLatestAccessToken q = some r ∧ q.Outlived r := by
  rw [findAccessToken_eq, List.find?_isSome]
  constructor
  · rintro ⟨found, hfound, hvalid⟩
    cases hlatest : s.findLatestAccessToken q with
    | none =>
      rw [longestLived_eq_none_iff.1 hlatest] at hfound
      cases hfound
    | some r =>
      have hlater := (longestLived_eq_some hlatest).2 found hfound
      have hfoundValid : q.Outlived found := AccessTokenQuery.validAt_iff.1 hvalid
      rw [UnixTime.before_eq_false_iff] at hlater
      exact ⟨r, rfl, Nat.lt_of_lt_of_le hfoundValid hlater⟩
  · rintro ⟨r, hlatest, hvalid⟩
    exact ⟨r, (longestLived_eq_some hlatest).1, AccessTokenQuery.validAt_iff.2 hvalid⟩

/-- **Both ways agree, but for blank tokens.** A valid match is found exactly if the match that expires
last is valid; a decision relies on that match exactly if it is valid and not blank. So the two agree
exactly if that match, in case it is valid, is not blank. -/
theorem usable_paths_agree_iff (s : Store) (q : AccessTokenQuery) :
    ((s.findAccessToken q).isSome = true ↔
        ∃ r, s.findLatestAccessToken q = some r ∧ q.Outlived r) ∧
      ((Decision.of (s.findLatestAccessToken q) false q.now q.buffer).ReliesOnCache ↔
        ∃ r, s.findLatestAccessToken q = some r ∧ r.secret ≠ "" ∧ q.Outlived r) ∧
      (((s.findAccessToken q).isSome = true ↔
          (Decision.of (s.findLatestAccessToken q) false q.now q.buffer).ReliesOnCache) ↔
        ∀ r, s.findLatestAccessToken q = some r → q.Outlived r → r.secret ≠ "") := by
  have hdecision : (Decision.of (s.findLatestAccessToken q) false q.now q.buffer).ReliesOnCache ↔
      ∃ r, s.findLatestAccessToken q = some r ∧ r.secret ≠ "" ∧ q.Outlived r := by
    rw [Decision.reliesOnCache_of_iff]
    constructor
    · rintro ⟨r, hlatest, husable⟩
      exact ⟨r, hlatest, husable.secret_ne, husable.unexpired⟩
    · rintro ⟨r, hlatest, hsecret, hvalid⟩
      exact ⟨r, hlatest, hsecret, hvalid⟩
  refine ⟨findAccessToken_isSome_iff, hdecision, ?_⟩
  rw [findAccessToken_isSome_iff, hdecision]
  constructor
  · intro hagree r hlatest hvalid
    obtain ⟨r', hlatest', hsecret, _⟩ := hagree.1 ⟨r, hlatest, hvalid⟩
    rw [hlatest] at hlatest'
    cases hlatest'
    exact hsecret
  · intro hsecret
    constructor
    · rintro ⟨r, hlatest, hvalid⟩
      exact ⟨r, hlatest, hsecret r hlatest hvalid, hvalid⟩
    · rintro ⟨r, hlatest, _, hvalid⟩
      exact ⟨r, hlatest, hvalid⟩

/-! ### A blank token -/

namespace Sample

/-- A query of a user for a token that may read. -/
def asking : AccessTokenQuery :=
  ⟨some "uid.utid", "utid", "client", .ofText "read", ["login.example.org"], ⟨1000⟩, ⟨300⟩⟩

/-- A store whose only access token is blank. -/
def blank : Store :=
  Store.empty.putAccessToken ⟨"uid.utid", "login.example.org", .accessToken, "client", "", "utid",
    .ofText "read", ⟨900⟩, ⟨9000⟩, none, none, .empty⟩

end Sample

/-- A blank token is found as a valid match, but a decision does not rely on it. -/
theorem blank_token_found :
    (Sample.blank.findAccessToken Sample.asking).map (·.secret) = some "" ∧
      ¬(Decision.of (Sample.blank.findLatestAccessToken Sample.asking) false Sample.asking.now
        Sample.asking.buffer).ReliesOnCache := by
  have hmissing : Decision.of (Sample.blank.findLatestAccessToken Sample.asking) false
      Sample.asking.now Sample.asking.buffer = .needsRefresh .missing := by rfl
  refine ⟨by decide +kernel, ?_⟩
  rw [hmissing]
  exact nofun

end Store

end SilentAuth
