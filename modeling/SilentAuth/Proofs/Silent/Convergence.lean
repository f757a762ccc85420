import SilentAuth.Proofs.Silent.CacheServed
import SilentAuth.Proofs.Silent.Renewal
import SilentAuth.Proofs.Silent.Tenants

/-!
# Requests that are repeated

A request that ended with a new token is answered from the cache when it is repeated, if the record
of the token is found there. The lookup computes the tenant and the scopes for which it searches,
and saving computes those under which the token is recorded. They agree but in two cases: an account
without a tenant in an application without one, whose token is recorded under the tenant that the
response tells; and scopes whose names are more than one word, which a document does not keep apart.

* `Application.sameText_tokenRealm_iff`: when the two tenants agree.
* `Application.Renewal.Findable`: what it takes that the record is found.
* `Application.acquire_repeats`: this is exactly what it takes that the request converges.
-/

namespace SilentAuth

open Session SilentAuth.Action

/-! ### Tenants -/

namespace Application

variable {app : Application} {account : Account} {scopes : Scopes} {services : Services}
  {s t : Session} {result : AuthResult}

/-- A token is recorded under the tenant of the authority that was asked, unless neither the
application nor the account names a tenant and the response tells another one. -/
theorem sameText_tokenRealm_iff {authority : Authority}
    (h : app.authorityFor account = .ok authority) (metadata : InstanceMetadata)
    (response : TokenResponse) (now : UnixTime) :
    sameText (app.issued authority metadata scopes (some account) response now).tokenRealm
        authority.tenant = true ↔
      (app.authority.isTenantless = true → account.tenantId = "" →
        ∀ tid, (IdClaims.ofToken response.idToken).tid = some tid →
          sameText tid app.authority.tenant = true) := by
  unfold authorityFor at h
  unfold Issued.tokenRealm Issued.accountTenant? Issued.claims issued
  by_cases htenantless : app.authority.isTenantless = true
  · by_cases htenant : account.tenantId = ""
    · -- the tenant that the response tells is used, if there is one
      simp only [htenantless, htenant, ne_eq, not_true_eq_false, decide_false, Bool.and_false,
        Bool.false_eq_true, if_false, Except.ok.injEq] at h
      subst h
      cases (IdClaims.ofToken response.idToken).tid <;> simp [htenantless, htenant, Option.filter]
    · have hkind : app.authority.kind = .aad := by
        simpa using (Bool.and_eq_true_iff.1 htenantless).1
      simp only [htenantless, htenant, ne_eq, not_false_eq_true, decide_true, Bool.and_true,
        if_true] at h
      cases hwith : app.authority.withTenant account.tenantId with
      | error e =>
        rw [hwith] at h
        cases h
      | ok b =>
        rw [hwith] at h
        cases h
        have hsame := Authority.sameText_tenant_of_withTenant hkind hwith
        rw [sameText_comm, sameText_iff] at hsame
        by_cases hb : authority.isTenantless = true <;> simp [hb, htenant, hsame, Option.filter]
  · simp only [htenantless, Bool.false_and, Bool.false_eq_true, if_false, Except.ok.injEq] at h
    subst h
    simp [htenantless]

namespace Renewal

variable (r : app.Renewal account scopes services s)

/-! ### What a repetition looks for -/

/-- The conditions under which a new token may be returned again: it was issued to the account, for
all of the requested scopes, at least for one, it is valid for longer than the buffer and not yet
due for a refresh, and the host of the account and the one under which tokens are cached are names
of one instance. If the account has no identifier, no one else may persist anything while the
identity provider is asked. -/
structure Lasting : Prop where
  home : ∀ home, r.issued.clientInfo.homeAccountId? = some home →
    sameText home account.homeAccountId = true
  asked : ∃ name ∈ scopes.names, Scopes.isReserved name = false
  granted : ∀ name ∈ scopes.names, Scopes.isReserved name = false →
    listed name r.issued.target.names = true
  secret_ne : r.response.accessToken ≠ ""
  unexpired : r.final.now.seconds.toNat + app.config.expiryBuffer.seconds.toNat <
    r.response.expiresOn.seconds.toNat
  early : ∀ due, r.response.refreshOn = some due → r.final.now.before due = true
  preferred : r.lookup.metadata.hasAlias r.lookup.metadata.preferredCache = true
  environment : r.lookup.metadata.hasAlias account.environment = true
  undisturbed : account.homeAccountId = "" → r.answer.persisted = none

/-- What it takes that the record of the token is found. If neither the application nor the account
names a tenant, the response must not tell another one; and if the cache is persisted, the requested
scopes must be among the words of the granted ones. -/
structure Findable : Prop where
  realm : app.authority.isTenantless = true → account.tenantId = "" →
    ∀ tid, r.issued.claims.tid = some tid → sameText tid app.authority.tenant = true
  scopes : s.storage.isSome = true → ∀ name ∈ scopes.names, Scopes.isReserved name = false →
    listed name (Scopes.ofText r.issued.target.text).names = true

/-- The token is one that was not cached before. -/
def Unseen : Prop :=
  ∀ cached ∈ r.cache.store.accessTokens.values, cached.secret ≠ r.response.accessToken

/-- What is looked for when the request is repeated. -/
def query : AccountQuery :=
  app.accountQuery r.lookup.authority account scopes false
    (accountAliases r.lookup.metadata r.final.discovery account) r.final.now

variable {r}

/-- A repetition looks under the hosts of the instance. -/
theorem Lasting.aliases_eq (h : r.Lasting) : r.query.aliases = r.lookup.metadata.aliases := by
  unfold query accountQuery accountAliases
  rw [if_pos h.environment]

/-- The token was issued to the account that asked. -/
theorem Lasting.sameText_home (h : r.Lasting) :
    sameText r.issued.homeAccountId account.homeAccountId = true := by
  have hhome := h.home
  unfold Issued.homeAccountId
  cases hinfo : r.issued.clientInfo.homeAccountId? with
  | none => exact sameText_refl _
  | some home => exact hhome home hinfo

/-- The token is recorded under a host that is looked for. -/
theorem Lasting.listed_environment (h : r.Lasting) :
    listed r.issued.environment r.query.aliases = true := by
  have hpreferred := h.preferred
  rw [h.aliases_eq]
  unfold Issued.environment
  rw [listed_congr (show sameText _ r.lookup.metadata.preferredCache = true by
    rw [sameText_iff, foldCase_foldCase]; rfl)]
  exact hpreferred

/-- What was issued is what a repetition asks for. -/
theorem Lasting.answers (h : r.Lasting) (hrealm : app.authority.isTenantless = true →
    account.tenantId = "" → ∀ tid, r.issued.claims.tid = some tid →
      sameText tid app.authority.tenant = true) :
    r.issued.Answers r.query.accessTokenQuery where
  home := sameText_iff.1 h.sameText_home
  client := rfl
  realm := sameText_iff.1 ((sameText_tokenRealm_iff r.lookup.authorityFor_eq _ _ _).2 hrealm)
  aliases := h.aliases_eq
  environment := h.listed_environment
  asked := h.asked
  granted := h.granted

/-- What a repetition asks for, it finds. -/
theorem Lasting.findLatestAccessToken (h : r.Lasting) (hfindable : r.Findable)
    (hdocumented : s.Documented) : ∃ extra,
      ((r.cache.modify (·.saveResponse r.issued)).kept s.storage.isSome).findLatestAccessToken
        r.query.accessTokenQuery = some (r.issued.keptRecord s.storage.isSome extra) := by
  have hplain : s.storage.isSome = true → r.cache.store.Plain := fun hstorage =>
    (r.documented hdocumented hstorage).plain
  exact TokenCache.findLatestAccessToken_kept (h.answers hfindable.realm) hplain
    (Scopes.containsAll_kept h.granted hfindable.scopes)

/-- The account that is asked about has a record when the request is repeated. -/
theorem Lasting.accountFor_isSome (h : r.Lasting) (hdocumented : s.Documented) :
    (((r.cache.modify (·.saveResponse r.issued)).kept s.storage.isSome).accountFor r.query).isSome =
      true := by
  have hbelongs : Store.belongs account.homeAccountId r.query.aliases r.issued.homeAccountId
      r.issued.environment = true :=
    Bool.and_eq_true_iff.2 ⟨h.sameText_home, h.listed_environment⟩
  refine TokenCache.findAccount_kept_isSome (Store.findAccount_saveResponse_isSome hbelongs ?_)
  intro hempty
  -- the tokens belong to an account without an identifier, which is saved no more
  have hhome : account.homeAccountId = "" := by
    have hsame := sameText_iff.1 h.sameText_home
    rw [hempty] at hsame
    exact eq_empty_of_foldCase hsame.symm
  have hlookup := Store.accountFor_of_offer_eq_ok r.lookup.offer_eq
  have hsame : r.lookup.resolved.discovery = r.final.discovery := r.discovery_eq.symm
  rw [hsame] at hlookup
  exact r.findAccount_isSome hdocumented (h.undisturbed hhome) hlookup

end Renewal

/-! ### Convergence -/

/-- In a session, a request for an account is answered with a token from the cache, whatever the
services would answer, and nothing is asked of the identity provider. -/
def Repeats (app : Application) (account : Account) (scopes : Scopes) (token : String)
    (t : Session) : Prop :=
  ∀ services, ∃ again u, app.acquire (.account account scopes false) services t = (.ok again, u) ∧
    again.accessToken = token ∧ again.source = .cache ∧ u.journal.exchanges = t.journal.exchanges

/-- A token that was issued, is valid for longer than the buffer and not yet due for a refresh, is
returned to an account whose query finds it at the next access. -/
theorem repeats_of_issued {authority : Authority} {metadata : InstanceMetadata} {found : TokenCache}
    {i : Issued} {persisted : Bool}
    (hauthority : app.authorityFor account = .ok authority)
    (hresolve : ∀ services, app.resolve authority services t = (.ok metadata, t))
    (hsettled : t.Settled found)
    (haccount : (found.store.accountFor (app.accountQuery authority account scopes false
      (accountAliases metadata t.discovery account) t.now)).isSome = true)
    (hfound : ∃ extra, found.store.findLatestAccessToken (app.accountQuery authority account scopes
      false (accountAliases metadata t.discovery account) t.now).accessTokenQuery =
        some (i.keptRecord persisted extra))
    (hsecret : i.response.accessToken ≠ "")
    (hunexpired : t.now.seconds.toNat + app.config.expiryBuffer.seconds.toNat <
      i.response.expiresOn.seconds.toNat)
    (hearly : ∀ due, i.response.refreshOn = some due → t.now.before due = true) :
    app.Repeats account scopes i.response.accessToken t := by
  intro services
  obtain ⟨extra, hfound⟩ := hfound
  have husable : (i.keptRecord persisted extra).UsableAt t.now app.config.expiryBuffer :=
    ⟨hsecret, hunexpired⟩
  have hdue : (i.keptRecord persisted extra).refreshDueAt t.now = false := by
    show i.response.refreshOn.elim false _ = false
    cases hrefresh : i.response.refreshOn with
    | none => rfl
    | some due => simp [hearly due hrefresh]
  obtain ⟨again, u, hagain, htoken, hsource, hsame⟩ :=
    acquire_of_settled hauthority hresolve hsettled haccount hfound husable hdue services
  exact ⟨again, u, hagain, htoken, hsource, hsame.exchanges⟩

/-- If a token that was issued, and not cached before, is returned from the cache, then its record
serves the request, as it is found there, and all other matches yield to it. -/
theorem exists_serves_of_issued {c found : TokenCache} {i : Issued} {again : AuthResult}
    {u : Session} (hagain : app.acquire (.account account scopes false) services t = (.ok again, u))
    (htoken : again.accessToken = i.response.accessToken) (hsource : again.source = .cache)
    (hsettled : t.Settled found) {persisted : Bool}
    (hstore : found.store = (c.modify (·.saveResponse i)).kept persisted)
    (hunseen : ∀ cached ∈ c.store.accessTokens.values, cached.secret ≠ i.response.accessToken) :
    ∃ (l : app.Lookup account scopes false services t) (extra : Json.Members),
      app.Serves account scopes l.authority l.aliases t.now (i.keptRecord persisted extra) ∧
        ∀ key other, found.store.accessTokens.find? key = some other →
          l.accessTokenQuery.isMatch other = true → key ≠ CacheRecord.key i.accessTokenRecord →
            YieldsTo (key, other) (CacheRecord.key i.accessTokenRecord, i.accessTokenRecord) := by
  obtain ⟨l, record, hserved⟩ := exists_servedBy hagain hsource
  have hserves := (serves_of_find hserved.found hserved.usable).2
  have hcache : l.cache = found := Except.ok.inj (l.opened_eq.symm.trans hsettled.opened)
  obtain ⟨key, hkey, _, hyields⟩ := Store.findLatestAccessToken_eq_some_iff.1 hserved.found
  rw [hcache, hstore] at hkey hyields
  -- the record that serves the request is the one that was issued
  obtain rfl : key = CacheRecord.key i.accessTokenRecord :=
    TokenCache.eq_key_of_secret hunseen hkey (hserved.token.symm.trans htoken)
  obtain ⟨extra, hfind⟩ := (TokenCache.exists_keptRecord c i persisted).1
  obtain rfl : i.keptRecord persisted extra = record := Option.some.inj (hfind.symm.trans hkey)
  rw [hstore]
  exact ⟨l, extra, hserves, hyields⟩

/-- A lasting token that can be found is returned again. -/
theorem Renewal.Lasting.repeats {r : app.Renewal account scopes services s} (hlasting : r.Lasting)
    (hfindable : r.Findable) (hdocumented : s.Documented) :
    app.Repeats account scopes r.response.accessToken r.final := by
  obtain ⟨found, hsettled, hstore⟩ := r.exists_settled hdocumented
  have hfound := hlasting.findLatestAccessToken hfindable hdocumented
  have haccount := hlasting.accountFor_isSome hdocumented
  rw [← hstore] at hfound haccount
  exact repeats_of_issued r.lookup.authorityFor_eq
    (fun services => resolve_again r.lookup.resolve_eq rfl r.discovery_eq services) hsettled
    haccount hfound hlasting.secret_ne hlasting.unexpired hlasting.early

/-- If a new token is returned again then it can be found. -/
theorem Renewal.Unseen.findable {r : app.Renewal account scopes services s} (hunseen : r.Unseen)
    (hdocumented : s.Documented)
    (h : app.Repeats account scopes r.response.accessToken r.final) : r.Findable := by
  obtain ⟨again, u, hagain, htoken, hsource, _⟩ := h services
  obtain ⟨found, hsettled, hstore⟩ := r.exists_settled hdocumented
  obtain ⟨l, extra, hserves, _⟩ :=
    exists_serves_of_issued hagain htoken hsource hsettled hstore hunseen
  have hsame : l.authority = r.lookup.authority :=
    Except.ok.inj (l.authorityFor_eq.symm.trans r.lookup.authorityFor_eq)
  have hrealm := hserves.realm
  rw [hsame] at hrealm
  refine ⟨(sameText_tokenRealm_iff r.lookup.authorityFor_eq _ _ _).1 hrealm, ?_⟩
  intro hstorage name hname hreserved
  have hgranted := hserves.granted name hname hreserved
  rw [hstorage] at hgranted
  exact hgranted

/-- **Convergence.** If an account gets a new token that lasts, then the same request, made again in
the session that this left, returns the token from the cache, if its record can be found; if the
token was not cached before, this is the only way in which it is returned again. -/
theorem acquire_repeats
    (h : app.acquire (.account account scopes false) services s = (.ok result, t))
    (hsource : result.source = .identityProvider) (hdocumented : s.Documented) :
    ∃ r : app.Renewal account scopes services s,
      r.final = t ∧ r.response.accessToken = result.accessToken ∧
        (r.Lasting → r.Findable → app.Repeats account scopes result.accessToken t) ∧
        (r.Unseen → app.Repeats account scopes result.accessToken t → r.Findable) := by
  obtain ⟨r, rfl, htoken⟩ := exists_renewal h hsource
  refine ⟨r, rfl, htoken, ?_, ?_⟩
  · intro hlasting hfindable
    rw [← htoken]
    exact hlasting.repeats hfindable hdocumented
  · intro hunseen hrepeats
    rw [← htoken] at hrepeats
    exact hunseen.findable hdocumented hrepeats

/-! ### An account without a tenant -/

namespace Sample

/-- A handle on the user that names no tenant. -/
def guest : Account := ⟨"UID.utid", "[::1]", "", none, none⟩

/-- A response with a token that is valid for long. -/
def response (idToken : Option String) : TokenResponse where
  accessToken := "new"
  refreshToken := none
  idToken := idToken
  expiresOn := ⟨9000⟩
  extendedExpiresOn := none
  refreshOn := none
  scopes := .ofText "read"
  familyId := none
  clientInfo := none

/-- An identity provider that gives this response. -/
def issuing (idToken : Option String) : Services :=
  ⟨fun _ _ => none, fun _ _ => ⟨.ok (response idToken), none, ⟨5⟩⟩⟩

/-- An ID token that tells that the user signed in to a tenant of the name t. -/
def telling : Option String := some "e30.eyJ0aWQiOiJ0In0."

/-- The user asks for a token to read. -/
def ask (idToken : Option String) (s : Session) : Except Error AuthResult × Session :=
  application.acquire (.account guest (.ofText "read") false) (issuing idToken) s

/-- What is issued for the tenant that `tenant` says. -/
def issued (idToken : Option String) (tenant : String) : AuthResult :=
  issuedResult (.ofText "read") none (some ⟨"UID.utid", "[::1]", tenant, none, none⟩)
    (response idToken)

/-- A session whose cache will be persisted, but is not yet. -/
def unsaved : Session := { session with storage := some (.holding .nothing) }

/-- What is cached in the session comes from documents. -/
theorem documented_unsaved : unsaved.Documented := by
  intro _ _ _
  refine ⟨?_, ?_, ?_⟩
  · constructor
    case accessTokens =>
      exact Bucket.forall_values_put Store.fits_empty.1.accessTokens (Store.fits_of_extra_eq_empty rfl)
    case refreshTokens =>
      exact Bucket.forall_values_put Store.fits_empty.1.refreshTokens (Store.fits_of_extra_eq_empty rfl)
    case accounts =>
      exact Bucket.forall_values_put Store.fits_empty.1.accounts (Store.fits_of_extra_eq_empty rfl)
    case idTokens => exact Store.fits_empty.1.idTokens
    case appMetadata => exact Store.fits_empty.1.appMetadata
    case unrecognized => exact Store.fits_empty.1.unrecognized
    case shallow => exact Store.fits_empty.1.shallow
  · intro r hr
    rcases Bucket.mem_values_put hr with rfl | hr
    · have htarget : Scopes.ofText (Scopes.ofText "read write").text = .ofText "read write" :=
        Scopes.ofText_text_ofText "read write"
      exact congrArg (fun target => { dueToken with target }) htarget
    · cases hr
  · intro b hb
    cases hb

variable {idToken : Option String} {s : Session}
  (r : application.Renewal guest (.ofText "read") (issuing idToken) s)

/-- What is issued is what the identity provider answers. -/
theorem response_eq : r.response = response idToken := (Except.ok.inj r.answer_eq).symm

/-- The scopes that are granted. -/
theorem target_eq : r.issued.target = (Scopes.ofText "read").withoutReserved := by
  show (if r.response.scopes.isEmpty then _ else r.response.scopes).withoutReserved = _
  rw [response_eq r]
  rfl

/-- The token of the response lasts. -/
theorem lasting (hdiscovery : s.discovery = .offline) (hnow : s.now = ⟨1000⟩) : r.Lasting := by
  have hauthority : r.lookup.authority = application.authority :=
    (Except.ok.inj r.lookup.authorityFor_eq).symm
  have hmetadata : r.lookup.metadata = .forSelf "[::1]" := by
    have hresolve := r.lookup.resolve_eq
    rw [hauthority, Application.resolve, Action.resolve, hdiscovery] at hresolve
    exact (Except.ok.inj (Prod.mk.inj hresolve).1).symm
  constructor
  case home =>
    intro home hhome
    have hinfo : r.issued.clientInfo = ClientInfo.ofResponse r.response.clientInfo := rfl
    rw [hinfo, response_eq r] at hhome
    cases hhome
  case asked => exact ⟨"read", by decide +kernel, by decide +kernel⟩
  case granted =>
    rw [target_eq r]
    decide +kernel
  case secret_ne =>
    rw [response_eq r]
    show "new" ≠ ""
    decide
  case unexpired =>
    rw [r.now_eq, hnow, response_eq r]
    show (1000 : Nat) + 5 + 300 < 9000
    decide
  case early =>
    intro due hdue
    rw [response_eq r] at hdue
    cases hdue
  case preferred =>
    rw [hmetadata]
    decide +kernel
  case environment =>
    rw [hmetadata]
    decide +kernel
  case undisturbed => exact fun _ => rfl

end Sample

/-- If the response does not tell a tenant, the token is returned again, though it was persisted in
the meantime. -/
theorem acquire_repeats_persisted :
    (Sample.ask none Sample.unsaved).1 = .ok (Sample.issued none "common") ∧
      Sample.unsaved.Documented ∧
      Sample.application.Repeats Sample.guest (.ofText "read") "new"
        (Sample.ask none Sample.unsaved).2 := by
  have hrun : (Sample.ask none Sample.unsaved).1 = .ok (Sample.issued none "common") := by
    decide +kernel
  obtain ⟨r, _, _, hrepeats, _⟩ := acquire_repeats (Prod.ext hrun rfl) rfl Sample.documented_unsaved
  refine ⟨hrun, Sample.documented_unsaved, hrepeats (Sample.lasting r rfl rfl) ⟨?_, ?_⟩⟩
  · intro _ _ tid htid
    have hclaims : r.issued.claims = IdClaims.ofToken r.response.idToken := rfl
    rw [hclaims, Sample.response_eq r] at htid
    cases htid
  · intro _
    rw [Sample.target_eq r]
    decide +kernel

/-- A response whose ID token tells the tenant of the user: the new token lasts, but it is recorded
under that tenant, and the request that is made again is answered with one more refresh. -/
theorem lasting_token_lost :
    ∃ r : Sample.application.Renewal Sample.guest (.ofText "read") (Sample.issuing Sample.telling)
        Sample.session,
      r.Lasting ∧ ∃ again u, Sample.ask Sample.telling r.final = (.ok again, u) ∧
        again.source = .identityProvider ∧ u.journal.exchanges.length = 2 := by
  have hfirst : (Sample.ask Sample.telling Sample.session).1 =
      .ok (Sample.issued Sample.telling "t") := by
    decide +kernel
  have hagain : (Sample.ask Sample.telling (Sample.ask Sample.telling Sample.session).2).1 =
      .ok (Sample.issued Sample.telling "t") := by
    decide +kernel
  have hexchanges : (Sample.ask Sample.telling
      (Sample.ask Sample.telling Sample.session).2).2.journal.exchanges.length = 2 := by
    decide +kernel
  have hrun : Sample.application.acquire (.account Sample.guest (.ofText "read") false)
      (Sample.issuing Sample.telling) Sample.session =
        (.ok (Sample.issued Sample.telling "t"), (Sample.ask Sample.telling Sample.session).2) :=
    Prod.ext hfirst rfl
  obtain ⟨r, hfinal, _⟩ := exists_renewal hrun rfl
  rw [← hfinal] at hagain hexchanges
  exact ⟨r, Sample.lasting r rfl rfl, _, _, Prod.ext hagain rfl, rfl, hexchanges⟩

end Application

end SilentAuth
