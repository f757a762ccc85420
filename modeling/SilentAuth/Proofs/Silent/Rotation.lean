import SilentAuth.Proofs.Cache.Saving
import SilentAuth.Proofs.Cache.Selection
import SilentAuth.Proofs.Discovery.Registration
import SilentAuth.Proofs.Silent.CacheServed

/-!
# Which refresh token is redeemed after a rotation

A response may bring a new refresh token. Saving it drops the older ones that derive its key, and no
others: one that was cached under another name of the host, or for another owner, stays. It depends
on the ranks and keys of those that stay whether the new one is redeemed next.

* `Issued.Shadows`: an older refresh token that stays and stands before the new one.
* `Store.selectRefreshToken_saveResponse`: the new token is selected exactly if nothing shadows it,
  and else one that shadows it.
* `Store.rotated_token_shadowed`: a new token that is not the one to be redeemed next.
-/

namespace SilentAuth

namespace Issued

variable (i : Issued)

/-- An older refresh token shadows a new one with this secret: it was cached under some key, saving
the new one does not drop it, and it may be redeemed for the same account and stands before the new
one, since it has a lower rank, or the same rank and a lower key. -/
structure Shadows (s : Store) (secret key : String) (r : RefreshTokenRecord) : Prop where
  cached : s.refreshTokens.find? key = some r
  stored_ne : key ≠ CacheRecord.key (i.refreshTokenRecord secret)
  derived_ne : CacheRecord.key r ≠ CacheRecord.key (i.refreshTokenRecord secret)
  redeemable :
    (s.saveResponse i).Redeemable i.homeAccountId i.context.clientId i.context.aliases r
  before :
    (s.saveResponse i).rank i.context.clientId i.context.aliases r <
        (s.saveResponse i).rank i.context.clientId i.context.aliases (i.refreshTokenRecord secret) ∨
      (s.saveResponse i).rank i.context.clientId i.context.aliases r =
          (s.saveResponse i).rank i.context.clientId i.context.aliases
            (i.refreshTokenRecord secret) ∧
        key < CacheRecord.key (i.refreshTokenRecord secret)

end Issued

namespace Store

variable {s : Store} {i : Issued} {secret : String}

/-- Of the refresh tokens, the new one and those that derive another key are cached afterwards. -/
theorem find?_refreshTokens_saveResponse (h : i.response.refreshToken = some secret)
    {key : String} {r : RefreshTokenRecord} :
    (s.saveResponse i).refreshTokens.find? key = some r ↔
      (key = CacheRecord.key (i.refreshTokenRecord secret) ∧ r = i.refreshTokenRecord secret) ∨
        (s.refreshTokens.find? key = some r ∧
          key ≠ CacheRecord.key (i.refreshTokenRecord secret) ∧
          CacheRecord.key r ≠ CacheRecord.key (i.refreshTokenRecord secret)) := by
  have hput : (s.saveResponse i).refreshTokens =
      s.refreshTokens.put (i.refreshTokenRecord secret) := by
    rw [saveResponse_eq, h]
    rfl
  rw [hput]
  by_cases hkey : key = CacheRecord.key (i.refreshTokenRecord secret)
  · subst hkey
    rw [Bucket.find?_put_self]
    simp [eq_comm]
  · rw [Bucket.find?_put_of_ne _ hkey, Option.filter_eq_some_iff]
    simp [hkey]

/-- The client may redeem the new refresh token. -/
theorem redeemable_saveResponse (henvironment : listed i.context.environment i.context.aliases = true)
    (secret : String) :
    (s.saveResponse i).Redeemable i.homeAccountId i.context.clientId i.context.aliases
      (i.refreshTokenRecord secret) := by
  have hfolded : listed i.environment i.context.aliases = true := by
    rw [← henvironment]
    exact listed_congr (by simp [Issued.environment])
  refine ⟨Bool.and_eq_true_iff.2 ⟨sameText_refl _, hfolded⟩, rank_lt_two_iff.2 ?_⟩
  have hclient : sameText (i.refreshTokenRecord secret).clientId i.context.clientId = true :=
    sameText_refl _
  unfold Prefers Accepts
  cases (s.saveResponse i).familyIdFor i.context.clientId i.context.aliases with
  | none => exact .inl hclient
  | some family => exact .inr hclient

/-- **What is redeemed after a rotation.** After a response with a refresh token was saved, a
refresh token is selected for the account, the client and the hosts of the response: the new one, if
no older one shadows it, and else an older one that does. -/
theorem selectRefreshToken_saveResponse (s : Store) (i : Issued) (secret : String)
    (hresponse : i.response.refreshToken = some secret)
    (henvironment : listed i.context.environment i.context.aliases = true) :
    ((s.saveResponse i).selectRefreshToken i.homeAccountId i.context.clientId i.context.aliases =
        some (i.refreshTokenRecord secret) ↔ ∀ key r, ¬i.Shadows s secret key r) ∧
      ∃ r, (s.saveResponse i).selectRefreshToken i.homeAccountId i.context.clientId
          i.context.aliases = some r ∧
        (r = i.refreshTokenRecord secret ∨ ∃ key, i.Shadows s secret key r) := by
  have hcached := (find?_refreshTokens_saveResponse (s := s) hresponse).2 (.inl ⟨rfl, rfl⟩)
  have hnew := redeemable_saveResponse (s := s) henvironment secret
  have hbefore : ∀ r, (s.saveResponse i).selectRefreshToken i.homeAccountId i.context.clientId
      i.context.aliases = some r →
        r = i.refreshTokenRecord secret ∨ ∃ key, i.Shadows s secret key r := by
    intro r hselected
    obtain ⟨key, hkey, hredeemable, hfirst⟩ := selectRefreshToken_eq_some_iff.1 hselected
    rcases (find?_refreshTokens_saveResponse hresponse).1 hkey with ⟨_, hr⟩ | ⟨hold, hne, hne'⟩
    · exact .inl hr
    · refine .inr ⟨key, hold, hne, hne', hredeemable, ?_⟩
      refine (hfirst _ _ hcached hnew).imp_right ?_
      rintro ⟨hrank, hle⟩
      exact ⟨hrank, Std.lt_of_le_of_ne hle hne⟩
  refine ⟨⟨?_, ?_⟩, ?_⟩
  · intro hselected key r hshadows
    obtain ⟨key', hkey', _, hfirst⟩ := selectRefreshToken_eq_some_iff.1 hselected
    have hkept := (find?_refreshTokens_saveResponse hresponse).2
      (.inr ⟨hshadows.cached, hshadows.stored_ne, hshadows.derived_ne⟩)
    -- the selected record stands under the key that it derives
    have hown : key' = CacheRecord.key (i.refreshTokenRecord secret) := by
      rcases (find?_refreshTokens_saveResponse hresponse).1 hkey' with ⟨heq, _⟩ | ⟨_, _, hne⟩
      · exact heq
      · exact absurd rfl hne
    rcases hfirst key r hkept hshadows.redeemable with hlt | ⟨heq, hle⟩
    · rcases hshadows.before with hlt' | ⟨heq', _⟩ <;> omega
    · rcases hshadows.before with hlt' | ⟨_, hlt'⟩
      · omega
      · exact String.not_lt.2 (hown ▸ hle) hlt'
  · intro hnone
    obtain ⟨r, hselected⟩ := Option.isSome_iff_exists.1
      (selectRefreshToken_isSome (Dict.mem_values_iff.2 ⟨_, hcached⟩) hnew)
    rcases hbefore r hselected with rfl | ⟨key, hshadows⟩
    · exact hselected
    · exact absurd hshadows (hnone key r)
  · obtain ⟨r, hselected⟩ := Option.isSome_iff_exists.1
      (selectRefreshToken_isSome (Dict.mem_values_iff.2 ⟨_, hcached⟩) hnew)
    exact ⟨r, hselected, hbefore r hselected⟩

/-! ### A token under another name of the host -/

namespace Sample

open Application.Sample

/-- A store with a refresh token of the account under a host. -/
def holding (host : String) : Store :=
  Store.empty.putRefreshToken
    ⟨"uid.utid", host, .refreshToken, "client", "old", none, .empty⟩

/-- A response with a new refresh token, for a host with two names. -/
def rotation : Issued where
  context := {
    authority := application.authority
    environment := "b.example"
    aliases := ["a.example", "b.example"]
    clientId := "client"
    requestedScopes := .empty
    account := some ⟨"uid.utid", "b.example", "utid", none, none⟩
    now := ⟨1000⟩ }
  response := ⟨"at", some "new", none, ⟨9000⟩, none, none, .empty, none, none⟩

/-- The refresh token that is redeemed next. -/
def next (s : Store) : Option String :=
  ((s.saveResponse rotation).selectRefreshToken "uid.utid" "client"
    ["a.example", "b.example"]).map RefreshTokenRecord.secret

end Sample

/-- An older token of the account that is cached under another name of the host is redeemed next, and
not the new one. -/
theorem rotated_token_shadowed :
    Sample.rotation.response.refreshToken = some "new" ∧
      listed Sample.rotation.context.environment Sample.rotation.context.aliases = true ∧
      Sample.rotation.homeAccountId = "uid.utid" ∧
      Sample.next (Sample.holding "a.example") = some "old" := by
  decide +kernel

/-- An older token under the name of the host under which the new one is recorded is dropped, so the
new one is redeemed next. -/
theorem selectRefreshToken_saveResponse_same_host :
    Sample.rotation.response.refreshToken = some "new" ∧
      listed Sample.rotation.context.environment Sample.rotation.context.aliases = true ∧
      (∀ key r, ¬Sample.rotation.Shadows (Sample.holding "B.example") "new" key r) ∧
      Sample.next (Sample.holding "B.example") = some "new" := by
  have hselection := selectRefreshToken_saveResponse (Sample.holding "B.example") Sample.rotation
    "new" rfl (by decide +kernel)
  have hnone : ∀ key r, ¬Sample.rotation.Shadows (Sample.holding "B.example") "new" key r := by
    intro key r hshadows
    have hmem : (key, r) ∈ (Sample.holding "B.example").refreshTokens.entries :=
      Dict.find?_eq_some_iff.1 hshadows.cached
    obtain ⟨_, rfl⟩ := Prod.mk.inj (List.mem_singleton.1 hmem)
    exact hshadows.derived_ne (by decide +kernel)
  have hhome : Sample.rotation.homeAccountId = "uid.utid" := by decide +kernel
  refine ⟨rfl, by decide +kernel, hnone, ?_⟩
  have hselected := hselection.1.2 hnone
  rw [hhome] at hselected
  exact congrArg (Option.map RefreshTokenRecord.secret) hselected

end Store

end SilentAuth
