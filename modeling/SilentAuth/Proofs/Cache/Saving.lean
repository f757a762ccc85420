import SilentAuth.Cache.Save
import SilentAuth.Proofs.Cache.Lookup
import SilentAuth.Proofs.Cache.Merge
import SilentAuth.Proofs.Scope.Coverage

/-!
# What saving a response makes of a store

Saving a response touches each bucket in one way. The new access token takes the place of all those
that could be found in its stead, so a query that it answers finds it.

* `Store.saveResponse_eq`: each bucket after a response was saved.
* `Issued.ReadBy`, `Issued.Answers`: what a query has to ask for in order to get what was issued.
* `Issued.ReadBy.replaces`: what such a query could find instead is replaced.
* `Store.findAccount_saveResponse_isSome`: the account of the tokens is found afterwards.
-/

namespace SilentAuth

namespace Store

/-! ### Buckets -/

variable (s : Store) (i : Issued)

/-- What becomes of each bucket when a response is saved. -/
theorem saveResponse_eq : s.saveResponse i = {
    accessTokens :=
      Bucket.put (s.accessTokens.filter fun _ r => !i.replaces r) i.accessTokenRecord
    refreshTokens := i.response.refreshToken.elim s.refreshTokens fun secret =>
      s.refreshTokens.put (i.refreshTokenRecord secret)
    idTokens := i.response.idToken.elim s.idTokens fun secret =>
      s.idTokens.put (i.idTokenRecord secret)
    accounts :=
      if i.homeAccountId = "" then s.accounts else s.accounts.upsert i.accountRecord
    appMetadata := s.appMetadata.put i.appMetadataRecord
    other := s.other } := by
  unfold saveResponse saveAccount
  cases i.response.refreshToken <;> cases i.response.idToken <;> dsimp only [Option.elim] <;>
    split <;> rfl

/-- The new access token is put after those that it replaces were dropped. -/
theorem accessTokens_saveResponse : (s.saveResponse i).accessTokens =
    Bucket.put (s.accessTokens.filter fun _ r => !i.replaces r) i.accessTokenRecord := by
  rw [saveResponse_eq]

/-- The account is merged into its record, unless no one was identified. -/
theorem accounts_saveResponse : (s.saveResponse i).accounts =
    if i.homeAccountId = "" then s.accounts else s.accounts.upsert i.accountRecord := by
  rw [saveResponse_eq]

variable {s i}

/-- The new access token is stored under the key that it derives. -/
theorem find?_accessTokens_saveResponse_self :
    (s.saveResponse i).accessTokens.find? (CacheRecord.key i.accessTokenRecord) =
      some i.accessTokenRecord := by
  rw [accessTokens_saveResponse, Bucket.find?_put_self]

/-- Every other access token was there before, and is not one that the new one replaces. -/
theorem find?_accessTokens_of_saveResponse {key : String} {r : AccessTokenRecord}
    (h : (s.saveResponse i).accessTokens.find? key = some r)
    (hkey : key ≠ CacheRecord.key i.accessTokenRecord) :
    s.accessTokens.find? key = some r ∧ i.replaces r = false := by
  rw [accessTokens_saveResponse, Bucket.find?_put_of_ne _ hkey, Option.filter_eq_some_iff,
    Dict.find?_filter_eq_some_iff] at h
  obtain ⟨⟨hfound, hreplaces⟩, _⟩ := h
  exact ⟨hfound, by simpa using hreplaces⟩

end Store

/-! ### Queries that the new access token answers -/

namespace Issued

/-- A query reads back what was issued: it asks for the same account, client and tenant, under the host
of the tokens and perhaps others that are equivalent to it, and for scopes that were granted, at
least for one. -/
structure ReadBy (i : Issued) (q : AccessTokenQuery) : Prop where
  home : foldCase i.homeAccountId = foldCase (q.homeAccountId.getD "")
  client : foldCase i.context.clientId = foldCase q.clientId
  realm : foldCase i.tokenRealm = foldCase q.realm
  environment : listed i.context.environment q.aliases = true
  within : ∀ host ∈ q.aliases, listed host (i.context.environment :: i.context.aliases) = true
  asked : ∃ name ∈ q.scopes.names, Scopes.isReserved name = false
  granted : ∀ name ∈ q.scopes.names, Scopes.isReserved name = false →
    listed name i.target.names = true

variable {i : Issued} {q : AccessTokenQuery}

/-- The host of the tokens is the one of the context, in lower case. -/
theorem sameText_environment (i : Issued) : sameText i.environment i.context.environment = true :=
  sameText_iff.2 (foldCase_foldCase i.context.environment)

/-- A query that reads back what was issued matches the new access token. -/
theorem ReadBy.isMatch (h : i.ReadBy q) : q.isMatch i.accessTokenRecord = true := by
  have henvironment : listed i.environment q.aliases = true := by
    rw [listed_congr i.sameText_environment, h.environment]
  exact AccessTokenQuery.isMatch_iff.2 ⟨sameText_iff.2 h.home, henvironment,
    sameText_iff.2 h.realm, sameText_iff.2 h.client, h.granted⟩

/-- What the query could find instead is replaced. -/
theorem ReadBy.replaces (h : i.ReadBy q) {r : AccessTokenRecord} (hr : q.isMatch r = true) :
    i.replaces r = true := by
  obtain ⟨hhome, hlisted, hrealm, hclient, hscopes⟩ := AccessTokenQuery.isMatch_iff.1 hr
  have henvironment :
      (sameText r.environment i.environment || listed r.environment i.context.aliases) = true := by
    obtain ⟨host, hhost, hsame⟩ := listed_iff.1 hlisted
    have hwithin := h.within host hhost
    rw [listed_congr (sameText_iff.2 hsame), listed, List.any_cons,
      Bool.or_eq_true, sameText_iff] at hwithin
    rw [Bool.or_eq_true, sameText_iff, Issued.environment, foldCase_foldCase]
    exact hwithin.imp_left Eq.symm
  have hintersects : r.target.intersects i.target = true := by
    -- a scope that the query asks for is granted by both
    obtain ⟨name, hname, hreserved⟩ := h.asked
    exact Scopes.intersects_of_listed (hscopes name hname hreserved)
      (h.granted name hname hreserved)
  rw [sameText_iff] at hhome hrealm hclient
  simp [Issued.replaces, henvironment, hhome.trans h.home.symm, hrealm.trans h.realm.symm,
    hclient.trans h.client.symm, hintersects]

/-- A query asks for what was issued: for the same account, client and tenant, under some of the
hosts that include the one of the tokens, and for scopes that were granted, at least for one. -/
structure Answers (i : Issued) (q : AccessTokenQuery) : Prop where
  home : foldCase i.homeAccountId = foldCase (q.homeAccountId.getD "")
  client : foldCase i.context.clientId = foldCase q.clientId
  realm : foldCase i.tokenRealm = foldCase q.realm
  aliases : q.aliases = i.context.aliases
  environment : listed i.environment q.aliases = true
  asked : ∃ name ∈ q.scopes.names, Scopes.isReserved name = false
  granted : ∀ name ∈ q.scopes.names, Scopes.isReserved name = false →
    listed name i.target.names = true

/-- A query under all hosts of the context reads back what was issued. -/
theorem Answers.readBy (h : i.Answers q) : i.ReadBy q where
  home := h.home
  client := h.client
  realm := h.realm
  environment := by rw [← listed_congr i.sameText_environment, h.environment]
  within host hhost := by
    have hlisted : listed host i.context.aliases = true :=
      listed_iff.2 ⟨host, h.aliases ▸ hhost, rfl⟩
    exact Bool.or_eq_true_iff.2 (.inr hlisted)
  asked := h.asked
  granted := h.granted

/-- A query that asks for what was issued matches the new access token. -/
theorem Answers.isMatch (h : i.Answers q) : q.isMatch i.accessTokenRecord = true :=
  h.readBy.isMatch

/-- What the query could find instead is replaced. -/
theorem Answers.replaces (h : i.Answers q) {r : AccessTokenRecord} (hr : q.isMatch r = true) :
    i.replaces r = true :=
  h.readBy.replaces hr

end Issued

/-- The account to which tokens were issued is found. If it has no home account, it has to have a
record already. -/
theorem Store.findAccount_saveResponse_isSome {s : Store} {i : Issued} {home : String}
    {realm : Option String} {aliases : List String}
    (hbelongs : belongs home aliases i.homeAccountId i.environment = true)
    (hknown : i.homeAccountId = "" → (s.findAccount home realm aliases).isSome = true) :
    ((s.saveResponse i).findAccount home realm aliases).isSome = true := by
  rw [findAccount_isSome_iff, accounts_saveResponse]
  split
  · rename_i hempty
    exact findAccount_isSome_iff.1 (hknown hempty)
  · refine ⟨_, Dict.mem_values_iff.2 ⟨_, Dict.find?_insert_self _ _ _⟩, ?_⟩
    cases s.accounts.find? (CacheRecord.key i.accountRecord) <;> exact hbelongs

end SilentAuth
