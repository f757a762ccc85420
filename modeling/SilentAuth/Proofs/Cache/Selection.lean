import SilentAuth.Decision
import SilentAuth.Proofs.Cache.Merge

/-!
# Which refresh token is selected

Of the refresh tokens of an account, a client prefers some and accepts others if there are none of
these; among those of one rank, the first one by its key counts. Which tokens are preferred depends
on whether the client is known to belong to a family.

* `Store.rank`: how a client ranks a refresh token.
* `Store.selectRefreshToken_eq_some_iff`: the selected token has the least rank, and of that rank it
  has the first key.
* `Store.selectRefreshToken_eq_some`: so it is a token of the account, and it is one of the client or
  of a family.
-/

namespace SilentAuth

variable {α : Type}

/-! ### First values -/

/-- The first value that passes a test is the one with the least key. -/
theorem Assoc.find?_map_snd_eq_some_iff {test : α → Bool} {entries : List (String × α)}
    (h : Ascending entries) {v : α} : (entries.map Prod.snd).find? test = some v ↔
      ∃ key, (key, v) ∈ entries ∧ test v = true ∧
        ∀ key' v', (key', v') ∈ entries → test v' = true → key ≤ key' := by
  induction entries with
  | nil => simp
  | cons e rest ih =>
    obtain ⟨k, w⟩ := e
    obtain ⟨hk, hrest⟩ := List.pairwise_cons.1 h
    rw [List.map_cons, List.find?_cons]
    cases hw : test w with
    | true =>
      dsimp only
      constructor
      · intro heq
        cases heq
        refine ⟨k, List.mem_cons_self, hw, ?_⟩
        intro key' v' hmem _
        rcases List.mem_cons.1 hmem with heq | hmem
        · cases heq
          exact String.le_refl k
        · exact Std.le_of_lt (hk _ hmem)
      · rintro ⟨key, hmem, _, hfirst⟩
        rcases List.mem_cons.1 hmem with heq | hmem
        · cases heq
          rfl
        · exact absurd (hk _ hmem) (String.not_lt.2 (hfirst k w List.mem_cons_self hw))
    | false =>
      dsimp only
      rw [ih hrest]
      constructor
      · rintro ⟨key, hmem, hv, hfirst⟩
        refine ⟨key, List.mem_cons_of_mem _ hmem, hv, ?_⟩
        intro key' v' hmem' hv'
        rcases List.mem_cons.1 hmem' with heq | hmem'
        · cases heq
          rw [hw] at hv'
          cases hv'
        · exact hfirst key' v' hmem' hv'
      · rintro ⟨key, hmem, hv, hfirst⟩
        rcases List.mem_cons.1 hmem with heq | hmem
        · cases heq
          rw [hw] at hv
          cases hv
        · exact ⟨key, hmem, hv, fun key' v' hmem' => hfirst key' v' (List.mem_cons_of_mem _ hmem')⟩

/-- The first value of a dictionary that passes a test is the one with the least key. -/
theorem Dict.values_find?_eq_some_iff {d : Dict α} {test : α → Bool} {v : α} :
    d.values.find? test = some v ↔ ∃ key, d.find? key = some v ∧ test v = true ∧
      ∀ key' v', d.find? key' = some v' → test v' = true → key ≤ key' := by
  simp only [find?_eq_some_iff]
  exact Assoc.find?_map_snd_eq_some_iff d.ascending

/-! ### Ranks -/

namespace Store

variable (s : Store) (homeAccountId clientId : String) (aliases : List String)

/-- Whether a client redeems a refresh token first: one of its family if it is known to belong to
one, and else its own. -/
def Prefers (r : RefreshTokenRecord) : Bool :=
  match s.familyIdFor clientId aliases with
  | some family => r.family?.elim false (sameText · family)
  | none => sameText r.clientId clientId

/-- Whether a client redeems a refresh token if there is none that it prefers: its own if it is
known to belong to a family, and else one of any family. -/
def Accepts (r : RefreshTokenRecord) : Bool :=
  match s.familyIdFor clientId aliases with
  | some _ => sameText r.clientId clientId
  | none => r.family?.isSome

/-- How a client ranks a refresh token: preferred ones first, then accepted ones, then those that it
does not redeem. -/
def rank (r : RefreshTokenRecord) : Nat :=
  if s.Prefers clientId aliases r then 0 else if s.Accepts clientId aliases r then 1 else 2

/-- The refresh tokens that a client may redeem for an account. -/
structure Redeemable (r : RefreshTokenRecord) : Prop where
  belongs : belongs homeAccountId aliases r.homeAccountId r.environment = true
  wanted : s.rank clientId aliases r < 2

/-- The selected refresh token is the first preferred one, else the first accepted one. -/
theorem selectRefreshToken_eq_or : s.selectRefreshToken homeAccountId clientId aliases =
    (s.refreshTokens.values.find? fun r =>
      Store.belongs homeAccountId aliases r.homeAccountId r.environment &&
        s.Prefers clientId aliases r).or
    (s.refreshTokens.values.find? fun r =>
      Store.belongs homeAccountId aliases r.homeAccountId r.environment &&
        s.Accepts clientId aliases r) := by
  unfold selectRefreshToken Prefers Accepts
  cases s.familyIdFor clientId aliases <;> rfl

variable {s homeAccountId clientId aliases}

/-- A token has the first rank if it is preferred. -/
theorem rank_eq_zero_iff {r : RefreshTokenRecord} :
    s.rank clientId aliases r = 0 ↔ s.Prefers clientId aliases r = true := by
  unfold rank
  cases s.Prefers clientId aliases r <;> cases s.Accepts clientId aliases r <;> simp

/-- A token is redeemed if it is preferred or accepted. -/
theorem rank_lt_two_iff {r : RefreshTokenRecord} : s.rank clientId aliases r < 2 ↔
    s.Prefers clientId aliases r = true ∨ s.Accepts clientId aliases r = true := by
  unfold rank
  cases s.Prefers clientId aliases r <;> cases s.Accepts clientId aliases r <;> simp

/-- A token has the second rank if it is accepted and not preferred. -/
theorem rank_eq_one_iff {r : RefreshTokenRecord} : s.rank clientId aliases r = 1 ↔
    s.Prefers clientId aliases r = false ∧ s.Accepts clientId aliases r = true := by
  unfold rank
  cases s.Prefers clientId aliases r <;> cases s.Accepts clientId aliases r <;> simp

/-- The selected refresh token is one that may be redeemed. Every other such token has a greater
rank, or it has the same rank and a greater key. -/
theorem selectRefreshToken_eq_some_iff {r : RefreshTokenRecord} :
    s.selectRefreshToken homeAccountId clientId aliases = some r ↔
      ∃ key, s.refreshTokens.find? key = some r ∧ s.Redeemable homeAccountId clientId aliases r ∧
        ∀ key' r', s.refreshTokens.find? key' = some r' →
          s.Redeemable homeAccountId clientId aliases r' →
            s.rank clientId aliases r < s.rank clientId aliases r' ∨
              s.rank clientId aliases r = s.rank clientId aliases r' ∧ key ≤ key' := by
  rw [selectRefreshToken_eq_or, Option.or_eq_some_iff, Dict.values_find?_eq_some_iff,
    Dict.values_find?_eq_some_iff, List.find?_eq_none]
  simp only [Bool.and_eq_true, ← rank_eq_zero_iff]
  constructor
  · rintro (⟨key, hcached, ⟨hbelongs, hzero⟩, hfirst⟩ |
      ⟨hnone, key, hcached, ⟨hbelongs, haccepts⟩, hfirst⟩)
    · refine ⟨key, hcached, ⟨hbelongs, by omega⟩, ?_⟩
      intro key' r' hcached' hredeemable
      by_cases hzero' : s.rank clientId aliases r' = 0
      · exact .inr ⟨hzero.trans hzero'.symm, hfirst key' r' hcached' ⟨hredeemable.belongs, hzero'⟩⟩
      · exact .inl (by omega)
    · -- nothing is preferred, so this token and all others have the second rank
      have hrank : ∀ key' r', s.refreshTokens.find? key' = some r' →
          s.Redeemable homeAccountId clientId aliases r' → s.rank clientId aliases r' = 1 := by
        intro key' r' hcached' hredeemable
        have hpos : s.rank clientId aliases r' ≠ 0 := fun hzero =>
          hnone r' (Dict.mem_values_iff.2 ⟨key', hcached'⟩) ⟨hredeemable.belongs, hzero⟩
        have hlt := hredeemable.wanted
        omega
      have hredeemable : s.Redeemable homeAccountId clientId aliases r :=
        ⟨hbelongs, rank_lt_two_iff.2 (.inr haccepts)⟩
      refine ⟨key, hcached, hredeemable, ?_⟩
      intro key' r' hcached' hredeemable'
      have hone := hrank key' r' hcached' hredeemable'
      refine .inr ⟨(hrank key r hcached hredeemable).trans hone.symm, ?_⟩
      exact hfirst key' r' hcached' ⟨hredeemable'.belongs, (rank_eq_one_iff.1 hone).2⟩
  · rintro ⟨key, hcached, hredeemable, hfirst⟩
    have hwanted := hredeemable.wanted
    by_cases hzero : s.rank clientId aliases r = 0
    · refine .inl ⟨key, hcached, ⟨hredeemable.belongs, hzero⟩, ?_⟩
      rintro key' r' hcached' ⟨hbelongs, hzero'⟩
      rcases hfirst key' r' hcached' ⟨hbelongs, by omega⟩ with hlt | ⟨_, hle⟩
      · omega
      · exact hle
    · have hone : s.rank clientId aliases r = 1 := by omega
      refine .inr ⟨?_, key, hcached, ⟨hredeemable.belongs, (rank_eq_one_iff.1 hone).2⟩, ?_⟩
      · rintro r' hr' ⟨hbelongs, hzero'⟩
        obtain ⟨key', hcached'⟩ := Dict.mem_values_iff.1 hr'
        rcases hfirst key' r' hcached' ⟨hbelongs, by omega⟩ with hlt | ⟨heq, _⟩ <;> omega
      · rintro key' r' hcached' ⟨hbelongs, haccepts⟩
        have hwanted' : s.rank clientId aliases r' < 2 := rank_lt_two_iff.2 (.inr haccepts)
        rcases hfirst key' r' hcached' ⟨hbelongs, hwanted'⟩ with hlt | ⟨_, hle⟩
        · omega
        · exact hle

/-- A refresh token is selected if any may be redeemed. -/
theorem selectRefreshToken_isSome {r : RefreshTokenRecord} (hr : r ∈ s.refreshTokens.values)
    (h : s.Redeemable homeAccountId clientId aliases r) :
    (s.selectRefreshToken homeAccountId clientId aliases).isSome = true := by
  rw [selectRefreshToken_eq_or, Option.isSome_or, Bool.or_eq_true, List.find?_isSome,
    List.find?_isSome]
  refine (rank_lt_two_iff.1 h.wanted).imp ?_ ?_ <;> intro hwanted <;>
    exact ⟨r, hr, by rw [h.belongs, hwanted]; rfl⟩

/-- The selected refresh token is cached for the account under one of the hosts, and it is one of the
client or of a family. -/
theorem selectRefreshToken_eq_some {r : RefreshTokenRecord}
    (h : s.selectRefreshToken homeAccountId clientId aliases = some r) :
    r ∈ s.refreshTokens.values ∧
      Store.belongs homeAccountId aliases r.homeAccountId r.environment = true ∧
      (sameText r.clientId clientId = true ∨ r.family?.isSome = true) := by
  obtain ⟨key, hcached, hredeemable, _⟩ := selectRefreshToken_eq_some_iff.1 h
  refine ⟨Dict.mem_values_iff.2 ⟨key, hcached⟩, hredeemable.belongs, ?_⟩
  have hwanted := rank_lt_two_iff.1 hredeemable.wanted
  unfold Prefers Accepts at hwanted
  cases hfamily : s.familyIdFor clientId aliases with
  | none =>
    simp only [hfamily] at hwanted
    exact hwanted
  | some family =>
    simp only [hfamily] at hwanted
    rcases hwanted with hprefers | haccepts
    · right
      cases hr : r.family? with
      | none =>
        rw [hr] at hprefers
        cases hprefers
      | some _ => rfl
    · exact .inl haccepts

end Store

end SilentAuth
