import SilentAuth.Proofs.Silent.Convergence
import SilentAuth.Proofs.Text.Words

/-!
# Redeemed tokens

A refresh token from elsewhere is redeemed without an account; the account of the new tokens is told
by the response. A request on behalf of this account, for the same scopes, is then answered from the
cache. Three tenants take part: the one in which the account is recorded, the one under which the
access token is, and the one of the authority that the request asks. They are the same, since an
application without a tenant asks the authority of the account's tenant. What may fail is that the
token is found again in a document, which does not keep scopes apart if they are more than one word:
the new token may be read as one for other scopes, and an older one as one for the requested scopes.

* `Application.Redemption`: the course of a redemption; `Application.exists_redemption`: every one
  that succeeds has it.
* `Application.Redemption.Lasting.exists_authorityFor`: the tenants agree.
* `Application.redeem_repeats`: what it takes that a redeemed token is returned from the cache.
-/

namespace SilentAuth

open Session SilentAuth.Action

namespace Application

/-- A redemption that ended with a new token: all that was found out in its course, and the session
in which it ended. -/
structure Redemption (app : Application) (refreshToken : String) (scopes : Scopes)
    (services : Services) (s : Session) where
  /-- What is known about the host of the application's authority. -/
  metadata : InstanceMetadata
  /-- The session after the host was resolved. -/
  resolved : Session
  /-- What the identity provider answered. -/
  response : TokenResponse
  /-- The session when the answer came in. -/
  asked : Session
  /-- The cache in which the answer was saved. -/
  cache : TokenCache
  /-- The session at the end. -/
  final : Session
  resolve_eq : app.resolve app.authority services s = (.ok metadata, resolved)
  exchange_eq : exchange (app.refreshRequest app.authority scopes refreshToken) services resolved =
    (.ok (.ok response), asked)
  opened_eq : asked.opened = .ok cache
  stored : Stored { asked with
    cache := cache.modify (·.saveResponse (app.issued app.authority metadata scopes none response
      asked.now)) } final
  surroundings : SameSurroundings asked final

variable {app : Application} {refreshToken : String} {scopes : Scopes} {services : Services}
  {s t : Session} {result : AuthResult} {account : Account}

/-- A redemption that succeeds resolves the host, asks the identity provider, and saves the answer;
it gives the account that the answer tells. -/
theorem exists_redemption
    (h : app.redeem refreshToken scopes services s = (.ok result, t)) :
    ∃ r : app.Redemption refreshToken scopes services s,
      r.final = t ∧ r.response.accessToken = result.accessToken ∧
        result.account = (app.issued app.authority r.metadata scopes none r.response
          r.asked.now).account? := by
  unfold redeem at h
  simp only [bind_eq_ok_iff, ofExcept_eq_ok_iff] at h
  obtain ⟨metadata, resolved, hresolve, answer, asked, hexchange, response, _, ⟨hanswer, rfl⟩,
    hissued⟩ := h
  cases answer with
  | error e => cases hanswer
  | ok _ =>
    cases hanswer
    obtain ⟨_, htoken, cache, hopened, hstored, hsame⟩ := cacheResponse_eq_ok hissued
    have haccount := account_of_cacheResponse hissued
    rw [Option.or_none] at haccount
    exact ⟨{
      metadata, resolved, response, asked, cache
      final := t
      resolve_eq := hresolve
      exchange_eq := hexchange
      opened_eq := hopened
      stored := hstored
      surroundings := hsame }, rfl, htoken.symm, haccount⟩

namespace Redemption

variable (r : app.Redemption refreshToken scopes services s)

/-- What was issued. -/
def issued : Issued := app.issued app.authority r.metadata scopes none r.response r.asked.now

/-- What happened while the identity provider was asked. -/
def answer : Exchange := services.exchange r.resolved.journal.exchanges.length
  (app.refreshRequest app.authority scopes refreshToken)

/-- The session when the answer came in. -/
theorem asked_eq : r.asked = { r.resolved with
    now := r.resolved.now.ticked r.answer.elapsed
    storage := r.resolved.storage.map fun storage =>
      r.answer.persisted.elim storage storage.overwrite
    journal.exchanges := r.resolved.journal.exchanges ++
      [app.refreshRequest app.authority scopes refreshToken] } := by
  have h := r.exchange_eq
  rw [exchange_apply] at h
  exact (Prod.mk.inj h).2.symm

/-- The identity provider answered with the response. -/
theorem answer_eq : r.answer.answer = .ok r.response := by
  have h := r.exchange_eq
  rw [exchange_apply] at h
  exact Except.ok.inj (Prod.mk.inj h).1

/-- Time passes only while the identity provider is asked. -/
theorem now_eq : r.final.now = s.now.ticked r.answer.elapsed := by
  rw [r.surroundings.now, asked_eq, (resolve_sameAccess r.resolve_eq).now]

/-- Nothing that is found out about hosts changes after the authority was resolved. -/
theorem discovery_eq : r.final.discovery = r.resolved.discovery := by
  rw [r.surroundings.discovery, asked_eq]

/-- There is a storage when the answer comes in exactly if there was one at the start. -/
theorem isSome_storage : r.asked.storage.isSome = s.storage.isSome := by
  rw [asked_eq, Option.isSome_map, (resolve_sameAccess r.resolve_eq).storage]

/-- If no one else persisted anything while the identity provider was asked, then the answer is saved
in the cache that the session had. -/
theorem opened_start (h : r.answer.persisted = none) : s.opened = .ok r.cache := by
  have hopened := r.opened_eq
  rw [asked_eq, h] at hopened
  rw [← (resolve_sameAccess r.resolve_eq).opened, ← hopened]
  unfold Session.opened
  simp only [Option.elim_none, Option.map_id']

/-- What is in memory when the answer comes in was there at the start. -/
theorem legible_asked (h : s.cache.Legible) : r.asked.Legible := by
  intro _ _ _
  rw [asked_eq, (resolve_sameAccess r.resolve_eq).cache]
  exact h

/-- The store in which the answer was saved, as it is kept for the next access. -/
def saved : Store := (r.cache.modify (·.saveResponse r.issued)).kept s.storage.isSome

/-- The next access finds the store in which the answer was saved. -/
theorem exists_settled (h : r.asked.Legible) :
    ∃ found, r.final.Settled found ∧ found.store = r.saved := by
  unfold saved
  rw [← r.isSome_storage]
  exact r.stored.exists_settled_of_saved r.opened_eq fun hstorage => h.opened hstorage r.opened_eq

/-- The host of the application's authority is known at the end. -/
theorem resolve_final {authority : Authority} (h : app.authorityFor account = .ok authority)
    (services' : Services) :
    app.resolve authority services' r.final = (.ok r.metadata, r.final) :=
  resolve_again r.resolve_eq (authorityFor_kind_host h).2 r.discovery_eq services'

/-! ### What a request for the account looks for -/

/-- The conditions under which a redeemed token may be returned from the cache: the tenant that the
response tells, if it tells one, can be a segment of a path; the token was issued for all of the
requested scopes, at least for one; it is valid for longer than the buffer and not yet due for a
refresh; and the host under which tokens are cached is a name of the instance. -/
structure Lasting : Prop where
  tenant : ∀ tid, r.issued.claims.tid = some tid → tid ≠ "" ∧ '/' ∉ tid.toList
  asked : ∃ name ∈ scopes.names, Scopes.isReserved name = false
  granted : ∀ name ∈ scopes.names, Scopes.isReserved name = false →
    listed name r.issued.target.names = true
  secret_ne : r.response.accessToken ≠ ""
  unexpired : r.final.now.seconds.toNat + app.config.expiryBuffer.seconds.toNat <
    r.response.expiresOn.seconds.toNat
  early : ∀ due, r.response.refreshOn = some due → r.final.now.before due = true
  preferred : r.metadata.hasAlias r.metadata.preferredCache = true

/-- The query for an access token of the account and the tenant for which the new one is recorded, and
for the scopes that were requested. -/
def query : AccessTokenQuery where
  homeAccountId := some r.issued.homeAccountId
  realm := r.issued.tokenRealm
  clientId := app.clientId
  scopes := scopes
  aliases := r.metadata.aliases
  now := r.final.now
  buffer := app.config.expiryBuffer

/-- What it takes that the record of the token is found, if the cache is persisted: the requested
scopes must be among the words of the granted ones; and any other record in the document, as it is
read, that matches the request, must expire before the new one, or at the same time under a smaller
key. -/
structure Findable : Prop where
  granted : s.storage.isSome = true → ∀ name ∈ scopes.names, Scopes.isReserved name = false →
    listed name (Scopes.ofText r.issued.target.text).names = true
  unrivalled : s.storage.isSome = true → ∀ key other,
    r.saved.accessTokens.find? key = some other → r.query.isMatch other = true →
      key ≠ CacheRecord.key r.issued.accessTokenRecord →
        YieldsTo (key, other) (CacheRecord.key r.issued.accessTokenRecord, r.issued.accessTokenRecord)

/-- The token is one that was not cached before. -/
def Unseen : Prop :=
  ∀ cached ∈ r.cache.store.accessTokens.values, cached.secret ≠ r.response.accessToken

variable {r}

/-- The account is recorded under the tenant that the response tells, else under that of the
application. -/
theorem realm_eq : r.issued.realm = (r.issued.claims.tid).getD app.authority.tenant := by
  unfold Issued.realm Issued.accountTenant? issued Application.issued
  cases (Issued.claims _).tid <;> simp

/-- The access token of an application without a tenant is recorded under the same one. -/
theorem tokenRealm_eq : r.issued.tokenRealm =
    if app.authority.isTenantless then r.issued.realm else app.authority.tenant := by
  rw [realm_eq]
  unfold Issued.tokenRealm Issued.accountTenant? issued Application.issued
  cases (Issued.claims _).tid <;> simp

/-- The authority that is asked about the account has the tenant under which the token is recorded. -/
theorem Lasting.exists_authorityFor (h : r.Lasting) (hnamed : app.authority.Named)
    (haccount : account.tenantId = r.issued.realm) :
    ∃ authority, app.authorityFor account = .ok authority ∧
      sameText r.issued.tokenRealm authority.tenant = true := by
  cases htenantless : app.authority.isTenantless with
  | false =>
    refine ⟨app.authority, authorityFor_of_tenant htenantless account, ?_⟩
    rw [tokenRealm_eq, htenantless]
    exact sameText_refl _
  | true =>
    have htenant : sameText app.authority.tenant account.tenantId = true ∨
        account.tenantId ≠ "" ∧ '/' ∉ account.tenantId.toList := by
      rw [haccount, realm_eq]
      cases htid : r.issued.claims.tid with
      | none => exact .inl (sameText_refl _)
      | some tid => exact .inr (h.tenant tid htid)
    obtain ⟨authority, hauthority, hsame⟩ :=
      Application.exists_authorityFor hnamed htenantless htenant
    refine ⟨authority, hauthority, ?_⟩
    rw [tokenRealm_eq, htenantless, if_pos rfl, ← haccount, sameText_comm]
    exact hsame

/-- The account that is given is the one of the record that is saved. -/
theorem account_eq (h : r.issued.account? = some account) :
    r.issued.homeAccountId ≠ "" ∧ account = Account.ofRecord r.issued.accountRecord := by
  unfold Issued.account? at h
  split at h
  · cases h
  · rename_i hhome
    exact ⟨hhome, (Option.some.inj h).symm⟩

/-- The tokens are recorded under a host of the instance. -/
theorem Lasting.listed_environment (h : r.Lasting) :
    listed r.issued.environment r.metadata.aliases = true := by
  have hpreferred := h.preferred
  have hfolded : sameText r.issued.environment r.metadata.preferredCache = true :=
    sameText_iff.2 (foldCase_foldCase _)
  rw [listed_congr hfolded]
  exact hpreferred

/-- A request for the account looks under the hosts of the instance. -/
theorem Lasting.accountAliases_eq (h : r.Lasting) (haccount : r.issued.account? = some account)
    (discovery : DiscoveryCache) :
    accountAliases r.metadata discovery account = r.metadata.aliases := by
  obtain ⟨_, rfl⟩ := account_eq haccount
  exact if_pos h.listed_environment

/-- What was issued is what the query asks for. -/
theorem Lasting.answers (h : r.Lasting) : r.issued.Answers r.query where
  home := rfl
  client := rfl
  realm := rfl
  aliases := rfl
  environment := h.listed_environment
  asked := h.asked
  granted := h.granted

/-- A request for the account has the same matches as the query. -/
theorem Lasting.isMatch_accountQuery (h : r.Lasting) (haccount : r.issued.account? = some account)
    {authority : Authority} (hrealm : sameText r.issued.tokenRealm authority.tenant = true)
    (discovery : DiscoveryCache) (now : UnixTime) :
    (app.accountQuery authority account scopes false
      (accountAliases r.metadata discovery account) now).accessTokenQuery.isMatch =
        r.query.isMatch := by
  rw [h.accountAliases_eq haccount]
  obtain ⟨_, rfl⟩ := account_eq haccount
  have hsame (w : AccessTokenRecord) :
      sameText w.realm authority.tenant = sameText w.realm r.issued.tokenRealm := by
    simp only [sameText, sameText_iff.1 hrealm]
  funext w
  simp only [AccessTokenQuery.isMatch, query, accountQuery, AccountQuery.accessTokenQuery, hsame]
  rfl

/-- The account that is given has a record at the next access. -/
theorem Lasting.accountFor_isSome (h : r.Lasting) (haccount : r.issued.account? = some account)
    (authority : Authority) (discovery : DiscoveryCache) (now : UnixTime) :
    (((r.cache.modify (·.saveResponse r.issued)).kept s.storage.isSome).accountFor
      (app.accountQuery authority account scopes false
        (accountAliases r.metadata discovery account) now)).isSome = true := by
  rw [h.accountAliases_eq haccount]
  obtain ⟨hhome, rfl⟩ := account_eq haccount
  apply TokenCache.findAccount_kept_isSome
  apply Store.findAccount_saveResponse_isSome
  · exact Bool.and_eq_true_iff.2 ⟨sameText_refl _, h.listed_environment⟩
  · intro hempty
    exact absurd hempty hhome

/-- In a cache that is not persisted, or in which scopes are kept as they are, nothing else matches the
request. -/
theorem Lasting.key_eq (h : r.Lasting)
    (hplain : s.storage.isSome = true → r.cache.store.Plain) {key : String}
    {other : AccessTokenRecord} (hkey : r.saved.accessTokens.find? key = some other)
    (hmatch : r.query.isMatch other = true) : key = CacheRecord.key r.issued.accessTokenRecord :=
  TokenCache.eq_key_of_isMatch_kept h.answers hplain hkey hmatch

/-- The query finds the record of a lasting token that can be found. -/
theorem Lasting.findLatestAccessToken (h : r.Lasting) (hfindable : r.Findable) : ∃ extra,
    r.saved.findLatestAccessToken r.query =
      some (r.issued.keptRecord s.storage.isSome extra) := by
  have hscopes := Scopes.containsAll_kept h.granted hfindable.granted
  apply TokenCache.findLatestAccessToken_kept_of_yields h.answers hscopes
  intro key other hkey hmatch hnew
  by_cases hstorage : s.storage.isSome = true
  · exact hfindable.unrivalled hstorage key other hkey hmatch hnew
  · exact absurd (h.key_eq (fun hsome => absurd hsome hstorage) hkey hmatch) hnew

/-- A lasting token that can be found is returned to the account that is given with it. -/
theorem Lasting.repeats (h : r.Lasting) (hlegible : r.asked.Legible) (hfindable : r.Findable)
    (hnamed : app.authority.Named) (haccount : r.issued.account? = some account) :
    app.Repeats account scopes r.response.accessToken r.final := by
  obtain ⟨found, hsettled, hstore⟩ := r.exists_settled hlegible
  have htenant : account.tenantId = r.issued.realm := by
    obtain ⟨_, rfl⟩ := account_eq haccount
    rfl
  obtain ⟨authority, hauthority, hrealm⟩ := h.exists_authorityFor hnamed htenant
  have hmatches := h.isMatch_accountQuery haccount hrealm r.final.discovery r.final.now
  have hrecord := h.accountFor_isSome haccount authority r.final.discovery r.final.now
  have hfound := h.findLatestAccessToken hfindable
  rw [← hstore, ← Store.findLatestAccessToken_congr hmatches] at hfound
  rw [← saved, ← hstore] at hrecord
  exact repeats_of_issued hauthority (r.resolve_final hauthority) hsettled hrecord hfound
    h.secret_ne h.unexpired h.early

/-- What is asked for in words is found, if the scopes of all cached tokens are words. -/
theorem Lasting.findable (h : r.Lasting)
    (hwords : ∀ name ∈ scopes.names, Scopes.isReserved name = false → IsWord name)
    (hplain : r.cache.store.Plain) : r.Findable := by
  constructor
  · intro _ name hname hreserved
    exact Scopes.listed_ofText_text (hwords name hname hreserved) (h.granted name hname hreserved)
  · intro _ key other hkey hmatch hnew
    exact absurd (h.key_eq (fun _ => hplain) hkey hmatch) hnew

/-- If a redeemed token is returned from the cache then it can be found. -/
theorem Unseen.findable (h : r.Unseen) (hlasting : r.Lasting) (hlegible : r.asked.Legible)
    (haccount : r.issued.account? = some account)
    {services' : Services} {again : AuthResult} {u : Session}
    (hagain : app.acquire (.account account scopes false) services' r.final = (.ok again, u))
    (htoken : again.accessToken = r.response.accessToken) (hsource : again.source = .cache) :
    r.Findable := by
  obtain ⟨found, hsettled, hstore⟩ := r.exists_settled hlegible
  obtain ⟨l, extra, hserves, hyields⟩ :=
    exists_serves_of_issued hagain htoken hsource hsettled hstore h
  constructor
  · intro hstorage name hname hreserved
    have hgranted := hserves.granted name hname hreserved
    rw [hstorage] at hgranted
    exact hgranted
  · intro _ key other hkey hmatch hnew
    -- the lookup asks the same authority about the same hosts
    have hresolve := r.resolve_final l.authorityFor_eq services'
    rw [l.resolve_eq] at hresolve
    obtain ⟨hmetadata, hresolved⟩ := Prod.mk.inj hresolve
    have haliases : l.aliases = accountAliases r.metadata r.final.discovery account := by
      rw [Lookup.aliases, hresolved, Except.ok.inj hmetadata]
    have hmatches :=
      hlasting.isMatch_accountQuery haccount hserves.realm r.final.discovery r.final.now
    rw [← haliases] at hmatches
    rw [← hmatches] at hmatch
    exact hyields key other (hstore ▸ hkey) hmatch hnew

/-- If a token that was not cached before cannot be found, then it is not returned from the cache. -/
theorem Unseen.source_ne_cache (h : r.Unseen) (hlasting : r.Lasting) (hlegible : r.asked.Legible)
    (haccount : r.issued.account? = some account) (hlost : ¬ r.Findable) {services' : Services}
    {again : AuthResult} {u : Session}
    (hagain : app.acquire (.account account scopes false) services' r.final = (.ok again, u))
    (htoken : again.accessToken = r.response.accessToken) : again.source ≠ .cache :=
  fun hsource => hlost (h.findable hlasting hlegible haccount hagain htoken hsource)

end Redemption

/-- **Redeemed tokens are served from the cache.** If a refresh token from elsewhere is redeemed for
a token that lasts, and an account is given with it, and the cache can be read again, then a request
on behalf of this account, for the same scopes, returns the token from the cache, if its record can
be found; if the token was not cached before, this is the only way in which it is returned. -/
theorem redeem_repeats (h : app.redeem refreshToken scopes services s = (.ok result, t))
    (haccount : result.account = some account) (hnamed : app.authority.Named) :
    ∃ r : app.Redemption refreshToken scopes services s,
      r.final = t ∧ r.response.accessToken = result.accessToken ∧
        (r.Lasting → r.asked.Legible →
          (r.Findable → app.Repeats account scopes result.accessToken t) ∧
          (r.Unseen → app.Repeats account scopes result.accessToken t → r.Findable)) := by
  obtain ⟨r, rfl, htoken, hgiven⟩ := exists_redemption h
  have hissued : r.issued.account? = some account := hgiven.symm.trans haccount
  refine ⟨r, rfl, htoken, fun hlasting hlegible => ⟨?_, ?_⟩⟩
  · intro hfindable
    rw [← htoken]
    exact hlasting.repeats hlegible hfindable hnamed hissued
  · intro hunseen hrepeats
    obtain ⟨again, u, hagain, hagainToken, hsource, _⟩ := hrepeats services
    exact hunseen.findable hlasting hlegible hissued hagain
      (hagainToken.trans htoken.symm) hsource

/-! ### A user who was not known -/

namespace Sample

/-- A user who signs in for the first time, as a guest in a tenant of the name t. -/
def newcomer : Account := ⟨"u.v", "[::1]", "t", none, none⟩

/-- A response for this user, which grants what was requested. -/
def welcome : TokenResponse where
  accessToken := "new"
  refreshToken := some "next"
  idToken := telling
  expiresOn := ⟨9000⟩
  extendedExpiresOn := none
  refreshOn := none
  scopes := .empty
  familyId := none
  clientInfo := some "eyJ1aWQiOiJ1IiwidXRpZCI6InYifQ"

/-- An identity provider that gives this response. -/
def welcoming : Services := ⟨fun _ _ => none, fun _ _ => ⟨.ok welcome, none, ⟨5⟩⟩⟩

/-- What the user gets, and the session in which a refresh token was redeemed. -/
def redeem (scopes : Scopes) (s : Session) : Except Error AuthResult × Session :=
  application.redeem "rt" scopes welcoming s

/-- What the user gets if the scopes are granted. -/
def redeemed (scopes : Scopes) : AuthResult := issuedResult scopes none (some newcomer) welcome

/-- The authority of the application is one that a text names. -/
theorem named_authority : application.authority.Named :=
  .ofText (show Authority.parse "https://[::1]/common" = .ok application.authority by
    decide +kernel)

section

variable {scopes : Scopes} {s : Session} (r : application.Redemption "rt" scopes welcoming s)

/-- The host of the application is known as itself only. -/
theorem metadata_eq (hdiscovery : s.discovery = .offline) : r.metadata = .forSelf "[::1]" := by
  have hresolve := r.resolve_eq
  rw [Application.resolve, Action.resolve, hdiscovery] at hresolve
  exact (Except.ok.inj (Prod.mk.inj hresolve).1).symm

/-- What the identity provider answers is the response. -/
theorem response_eq_welcome : r.response = welcome := (Except.ok.inj r.answer_eq).symm

/-- The identity provider takes five seconds to answer. -/
theorem final_now_eq (hnow : s.now = ⟨1000⟩) : r.final.now = ⟨1005⟩ := by
  rw [r.now_eq, hnow]
  rfl

/-- What is issued is what the response says, at the host of the application. -/
theorem issued_eq (hdiscovery : s.discovery = .offline) (hnow : s.now = ⟨1000⟩) :
    r.issued = application.issued application.authority (.forSelf "[::1]") scopes none welcome
      ⟨1005⟩ := by
  have hasked : r.asked.now = ⟨1005⟩ := r.surroundings.now.symm.trans (final_now_eq r hnow)
  rw [Redemption.issued, metadata_eq r hdiscovery, response_eq_welcome r, hasked]

/-- What is granted is what was requested. -/
theorem target_eq_withoutReserved : r.issued.target = scopes.withoutReserved := by
  show (if r.response.scopes.isEmpty then scopes else r.response.scopes).withoutReserved = _
  rw [response_eq_welcome r]
  rfl

/-- What was redeemed for any scope lasts. -/
theorem lasting_redemption (hdiscovery : s.discovery = .offline) (hnow : s.now = ⟨1000⟩)
    (hasked : ∃ name ∈ scopes.names, Scopes.isReserved name = false) : r.Lasting := by
  have hresponse := response_eq_welcome r
  have hmetadata : r.metadata = .forSelf "[::1]" := metadata_eq r hdiscovery
  constructor
  case tenant =>
    have hclaims : r.issued.claims.tid = some "t" := by
      show (IdClaims.ofToken r.response.idToken).tid = some "t"
      rw [hresponse]
      decide +kernel
    intro tid htid
    obtain rfl : "t" = tid := Option.some.inj (hclaims.symm.trans htid)
    decide
  case asked => exact hasked
  case granted =>
    intro name hname hreserved
    rw [target_eq_withoutReserved r]
    exact listed_iff.2 ⟨name, Scopes.mem_names_withoutReserved.2 ⟨hname, hreserved⟩, rfl⟩
  case secret_ne =>
    rw [hresponse]
    show "new" ≠ ""
    decide
  case unexpired =>
    rw [final_now_eq r hnow, hresponse]
    show (1005 : Nat) + 300 < 9000
    decide
  case early =>
    intro due hdue
    rw [hresponse] at hdue
    cases hdue
  case preferred =>
    rw [hmetadata]
    decide +kernel

end

/-- A scope whose name is two words. -/
def phrase : Scopes := Scopes.empty.insert "read write"

/-- A token for this scope. -/
def phraseToken : AccessTokenRecord :=
  { dueToken with
    homeAccountId := "u.v", realm := "t", secret := "old", target := phrase, expiresOn := ⟨10000⟩ }

/-- A session in which the token could not be persisted so far. -/
def interrupted : Session :=
  { unsaved with cache := unsaved.cache.modify (·.putAccessToken phraseToken) }

/-- The tokens in memory can be persisted. -/
theorem legible_unsaved : unsaved.cache.Legible := (documented_unsaved _ rfl rfl).legible

/-- So can the token that could not be persisted so far. -/
theorem legible_interrupted : interrupted.cache.Legible := by
  obtain ⟨hfits, hbaseline⟩ := legible_unsaved
  refine ⟨{ hfits with accessTokens := ?_ }, hbaseline⟩
  exact Bucket.forall_values_put hfits.accessTokens (Store.fits_of_extra_eq_empty rfl)

end Sample

/-- A guest gets the token that was redeemed, though it was persisted in the meantime, and though
the tenant of the sign-in is neither the home tenant nor one that the application names. -/
theorem redeem_repeats_guest :
    (Sample.redeem (.ofText "read") Sample.unsaved).1 = .ok (Sample.redeemed (.ofText "read")) ∧
      Sample.application.authority.Named ∧
      ∃ r : Sample.application.Redemption "rt" (.ofText "read") Sample.welcoming Sample.unsaved,
        r.Lasting ∧ r.asked.Legible ∧ r.Findable ∧
          Sample.application.Repeats Sample.newcomer (.ofText "read") "new"
            (Sample.redeem (.ofText "read") Sample.unsaved).2 := by
  have hrun : (Sample.redeem (.ofText "read") Sample.unsaved).1 =
      .ok (Sample.redeemed (.ofText "read")) := by
    decide +kernel
  obtain ⟨r, _, _, hrepeats⟩ :=
    redeem_repeats (Prod.ext hrun rfl) rfl Sample.named_authority
  have hlasting : r.Lasting :=
    Sample.lasting_redemption r rfl rfl ⟨"read", by decide +kernel, by decide +kernel⟩
  have hlegible : r.asked.Legible := r.legible_asked Sample.legible_unsaved
  have hfindable : r.Findable := by
    apply hlasting.findable
    · intro name hname _
      exact isWord_of_mem_words (Scopes.mem_names_ofText.1 hname)
    · have hcache : Sample.unsaved.cache = r.cache := Except.ok.inj (r.opened_start rfl)
      rw [← hcache]
      exact (Sample.documented_unsaved _ rfl rfl).plain
  exact ⟨hrun, Sample.named_authority, r, hlasting, hlegible, hfindable,
    (hrepeats hlasting hlegible).1 hfindable⟩

namespace Sample

/-- In a session, no request of the user for the scopes is answered with the new token from the
cache. -/
def Lost (scopes : Scopes) (t : Session) : Prop :=
  ∀ services again u, application.acquire (.account newcomer scopes false) services t =
    (.ok again, u) → again.accessToken = "new" → again.source ≠ .cache

/-- What was redeemed for any scope lasts, but it is lost if it cannot be found. -/
theorem exists_lost {scopes : Scopes} {s : Session}
    (hrun : (redeem scopes s).1 = .ok (redeemed scopes)) (hdiscovery : s.discovery = .offline)
    (hnow : s.now = ⟨1000⟩) (hopened : s.opened = .ok s.cache)
    (hasked : ∃ name ∈ scopes.names, Scopes.isReserved name = false)
    (hlegible : s.cache.Legible)
    (hold : ∀ cached ∈ s.cache.store.accessTokens.values, cached.secret ≠ "new")
    (hlost : ∀ r : application.Redemption "rt" scopes welcoming s, ¬ r.Findable) :
    ∃ r : application.Redemption "rt" scopes welcoming s,
      redeem scopes s = (.ok (redeemed scopes), r.final) ∧ r.Lasting ∧ Lost scopes r.final := by
  obtain ⟨r, hfinal, _, hgiven⟩ :=
    exists_redemption (show redeem scopes s = _ from Prod.ext hrun rfl)
  have hlasting : r.Lasting := lasting_redemption r hdiscovery hnow hasked
  refine ⟨r, Prod.ext hrun hfinal.symm, hlasting, ?_⟩
  have hresponse := response_eq_welcome r
  have hcache : s.cache = r.cache := Except.ok.inj (hopened.symm.trans (r.opened_start rfl))
  have hunseen : r.Unseen := by
    unfold Redemption.Unseen
    rw [← hcache, hresponse]
    exact hold
  intro services again u hagain htoken
  exact hunseen.source_ne_cache hlasting (r.legible_asked hlegible) hgiven.symm (hlost r) hagain
    (htoken.trans (congrArg TokenResponse.accessToken hresponse).symm)

/-- In the document, a token for the two words is one for two scopes. -/
theorem not_findable_phrase (r : application.Redemption "rt" phrase welcoming unsaved) :
    ¬ r.Findable := by
  intro hfindable
  have hlisted := hfindable.granted rfl "read write" (by decide +kernel) (by decide +kernel)
  rw [target_eq_withoutReserved r] at hlisted
  revert hlisted
  decide +kernel

/-- A new token for one of the words expires before the token for both, which the document takes for
one that grants it, too. -/
theorem not_findable_interrupted
    (r : application.Redemption "rt" (.ofText "read") welcoming interrupted) : ¬ r.Findable := by
  intro hfindable
  have hcache : interrupted.cache = r.cache := Except.ok.inj (r.opened_start rfl)
  have hissued := issued_eq r rfl rfl
  have hrival : ∃ other,
      r.saved.accessTokens.find? (CacheRecord.key phraseToken) = some other ∧
        r.query.isMatch other = true ∧ other.expiresOn = ⟨10000⟩ := by
    unfold Redemption.saved Redemption.query
    rw [← hcache, hissued, metadata_eq r rfl, final_now_eq r rfl]
    exact ⟨_, rfl, by decide +kernel, rfl⟩
  obtain ⟨other, hkey, hmatch, hexpires⟩ := hrival
  have hyields := hfindable.unrivalled rfl _ other hkey hmatch (by rw [hissued]; decide +kernel)
  have hnew : r.issued.accessTokenRecord.expiresOn = ⟨9000⟩ := by
    rw [hissued]
    rfl
  rw [YieldsTo, hexpires, hnew] at hyields
  rcases hyields with hearlier | ⟨hsame, _⟩
  · exact absurd hearlier (by decide)
  · exact absurd hsame (by decide)

end Sample

/-- A token for a scope whose name is two words lasts, but in the document it is one for two scopes,
so a request for it is not answered with this token from the cache. Nor is a request for one of these
words answered with a new token for it, where the other one is persisted with it and expires later. -/
theorem redeemed_token_lost :
    (∃ r : Sample.application.Redemption "rt" Sample.phrase Sample.welcoming Sample.unsaved,
      (Sample.redeem Sample.phrase Sample.unsaved) = (.ok (Sample.redeemed Sample.phrase), r.final) ∧
        Sample.application.authority.Named ∧ Sample.unsaved.cache.Documented ∧ r.Lasting ∧
        Sample.Lost Sample.phrase r.final) ∧
      ∃ r : Sample.application.Redemption "rt" (.ofText "read") Sample.welcoming Sample.interrupted,
        (Sample.redeem (.ofText "read") Sample.interrupted) =
            (.ok (Sample.redeemed (.ofText "read")), r.final) ∧
          Sample.interrupted.cache.Legible ∧ r.Lasting ∧ Sample.Lost (.ofText "read") r.final := by
  constructor
  · obtain ⟨r, hrun, hlasting, hlost⟩ := Sample.exists_lost (by decide +kernel) rfl rfl rfl
      ⟨"read write", by decide +kernel, by decide +kernel⟩ Sample.legible_unsaved
      (by decide +kernel) Sample.not_findable_phrase
    exact ⟨r, hrun, Sample.named_authority, Sample.documented_unsaved _ rfl rfl, hlasting, hlost⟩
  · obtain ⟨r, hrun, hlasting, hlost⟩ := Sample.exists_lost (by decide +kernel) rfl rfl rfl
      ⟨"read", by decide +kernel, by decide +kernel⟩ Sample.legible_interrupted
      (by decide +kernel) Sample.not_findable_interrupted
    exact ⟨r, hrun, Sample.legible_interrupted, hlasting, hlost⟩

end Application

end SilentAuth
