import SilentAuth.Proofs.Cache.OwnTokens
import SilentAuth.Proofs.Cache.Written
import SilentAuth.Proofs.Session.Triples
import SilentAuth.Proofs.Silent.Redemption

/-!
# Requests for tokens of the application itself

An application is given a token of its own only if the cache holds one, and it never asks for one.
But a token that was issued for a refresh token is cached without a home account if the response
tells none and the refresh was not made for an account with an identifier, and then it counts as a
token of the application itself: the next request of the application gets the token of a user.

* `Application.Operation`, `Application.run`: what an application is asked to do, step by step.
* `Application.Brings`: the operations that bring in a token without a home account.
* `Application.perform_ownTokensIn`, `Application.run_ownTokensIn`: no others bring in any.
* `Application.acquire_app_of_run`: what a request of the application itself ends with after a run.
-/

namespace SilentAuth

open Session SilentAuth.Action

variable {P Q : String → Prop}

/-! ### Sessions -/

namespace Session

/-- All tokens of the application itself satisfy a condition, in memory and where they are
persisted. -/
structure OwnTokensIn (P : String → Prop) (s : Session) : Prop where
  cache : s.cache.OwnTokensIn P
  persisted : ∀ storage, s.storage = some storage → storage.content.OwnTokensIn P

variable {s t : Session}

/-- A session that keeps a condition keeps a weaker one. -/
theorem OwnTokensIn.mono (h : s.OwnTokensIn P) (hPQ : ∀ token, P token → Q token) :
    s.OwnTokensIn Q :=
  ⟨h.cache.mono hPQ, fun storage hstorage => (h.persisted storage hstorage).mono hPQ⟩

/-- The condition depends on the cache and the storage alone. -/
theorem OwnTokensIn.of_same (h : s.OwnTokensIn P) (hcache : t.cache = s.cache)
    (hstorage : t.storage = s.storage) : t.OwnTokensIn P := by
  refine ⟨hcache ▸ h.cache, ?_⟩
  rw [hstorage]
  exact h.persisted

/-- The next access works on a cache that satisfies the condition. -/
theorem OwnTokensIn.opened (h : s.OwnTokensIn P) {c : TokenCache} (hopened : s.opened = .ok c) :
    c.OwnTokensIn P := by
  unfold Session.opened at hopened
  cases hs : s.storage with
  | none =>
    rw [hs] at hopened
    cases hopened
    exact h.cache
  | some storage =>
    rw [hs] at hopened
    exact Storage.ownTokensIn_load (h.persisted storage hs) h.cache hopened

/-- The condition is kept when the cache is loaded. -/
theorem OwnTokensIn.load (h : s.OwnTokensIn P) : s.load.2.OwnTokensIn P := by
  unfold Session.load
  cases hs : s.storage with
  | none => exact h
  | some storage =>
    dsimp only
    cases hload : storage.load s.cache with
    | error e => exact h
    | ok c =>
      refine ⟨Storage.ownTokensIn_load (h.persisted storage hs) h.cache hload, ?_⟩
      exact fun storage' hstorage' => h.persisted storage' (hs.trans hstorage')

/-- The condition is kept when the cache is stored. -/
theorem OwnTokensIn.store (h : s.OwnTokensIn P) : s.store.2.OwnTokensIn P := by
  unfold Session.store
  cases hs : s.storage with
  | none => exact h
  | some storage =>
    obtain ⟨hpersisted, hcache⟩ := Storage.ownTokensIn_store (h.persisted storage hs) h.cache
    refine ⟨hcache, ?_⟩
    intro storage' hstorage'
    cases hstorage'
    exact hpersisted

end Session

/-- All tokens of the application itself that other processes persist satisfy a condition. -/
def Services.OwnTokensIn (P : String → Prop) (services : Services) : Prop :=
  ∀ n request content, (services.exchange n request).persisted = some content →
    content.OwnTokensIn P

/-! ### Actions -/

namespace Action

variable {α : Type} {services : Services} {made : List RefreshRequest} {clientId : String}
  {account : Option Account} {access : TokenCache → α × TokenCache}

/-- A session that satisfies the condition, in which certain refreshes were made so far. -/
def Stage (P : String → Prop) (made : List RefreshRequest) (s : Session) : Prop :=
  s.OwnTokensIn P ∧ s.journal.exchanges = made

/-- Looking hosts up keeps the condition, and makes no refresh. -/
theorem leads_resolve_stage {a : Authority} {validate : Bool} :
    Leads services (Stage P made) (fun _ => Stage P made) (resolve a validate) :=
  leads_resolve fun _ _ hsame h =>
    ⟨h.1.of_same hsame.cache hsame.storage, hsame.exchanges.trans h.2⟩

/-- An access to the cache keeps the condition if it does so there. -/
theorem leads_withCache_ownTokensIn
    (haccess : ∀ c, c.OwnTokensIn P → (access c).2.OwnTokensIn P) :
    Leads services (Session.OwnTokensIn P) (fun _ => Session.OwnTokensIn P)
      (withCache clientId account access) := by
  refine leads_withCache ?_ (fun _ h => h.load) ?_ (fun _ h => h.store)
  · exact fun moment s h =>
      h.of_same (note_cache moment clientId account s) (note_storage moment clientId account s)
  · exact fun s h => ⟨haccess s.cache h.cache, h.persisted⟩

/-- Changing the store keeps the condition if it does so there. -/
theorem leads_changing_ownTokensIn {result : Store → α} {change : Store → Store}
    (htokens : ∀ s : Store, s.OwnTokensIn P → (change s).OwnTokensIn P)
    (hfits : ∀ s : Store, s.Fits → (change s).Fits) :
    Leads services (Session.OwnTokensIn P) (fun _ => Session.OwnTokensIn P)
      (changing clientId account result change) :=
  leads_withCache_ownTokensIn fun c hc => hc.modify (htokens c.store hc.tokens)
    (hfits c.store hc.fits)

/-- Reading keeps the condition, and makes no refresh. -/
theorem leads_reading_stage {read : Store → α} :
    Leads services (Stage P made) (fun _ => Stage P made) (reading clientId account read) :=
  (leads_withCache_ownTokensIn fun _ h => h).and
    (leads_withCache_of_surroundings fun _ _ hsame h => hsame.exchanges.trans h)

/-- A refresh keeps the condition if others do, and it is answered as the services answer it. -/
theorem leads_exchange_stage (hservices : services.OwnTokensIn P) {request : RefreshRequest} :
    Leads services (Stage P made)
      (fun result s =>
        result = .ok (services.exchange made.length request).answer ∧ s.OwnTokensIn P)
      (exchange request) := by
  rintro s ⟨hs, hmade⟩
  subst hmade
  refine ⟨rfl, hs.cache, ?_⟩
  intro storage hstorage
  obtain ⟨present, hpresent, rfl⟩ := Option.map_eq_some_iff.1 hstorage
  cases hpersisted : (services.exchange s.journal.exchanges.length request).persisted with
  | none => exact hs.persisted present hpresent
  | some content =>
    exact Storage.ownTokensIn_overwrite (hs.persisted present hpresent)
      (hservices _ _ _ hpersisted)

end Action

/-! ### Operations -/

namespace Application

/-- What an application is asked to do. -/
inductive Operation where
  | acquire (request : SilentRequest)
  | redeem (refreshToken : String) (scopes : Scopes)
  | accounts
  | remove (account : Account)
  /-- Time passes, until `now`. -/
  | wait (now : UnixTime)

/-- The session after an operation, whether it succeeds or not. -/
def perform (app : Application) (services : Services) (s : Session) : Operation → Session
  | .acquire request => (app.acquire request services s).2
  | .redeem refreshToken scopes => (app.redeem refreshToken scopes services s).2
  | .accounts => (app.accounts services s).2
  | .remove account => (app.removeAccount account services s).2
  | .wait now => { s with now }

/-- The session after operations one after another. -/
def run (app : Application) (services : Services) (s : Session) (ops : List Operation) : Session :=
  ops.foldl (app.perform services) s

/-- A response tells no home account. -/
def Untold (response : TokenResponse) : Prop :=
  (ClientInfo.ofResponse response.clientInfo).homeAccountId? = none

instance (response : TokenResponse) : Decidable (Untold response) :=
  inferInstanceAs (Decidable ((ClientInfo.ofResponse response.clientInfo).homeAccountId? = none))

/-- The operations that bring in a token without a home account: the identity provider answers a
refresh with a response that tells none, and the refresh is made with a refresh token from
elsewhere, or for an account without an identifier. -/
inductive Brings (app : Application) (services : Services) (s : Session) :
    Operation → String → Prop
  | redeem {refreshToken : String} {scopes : Scopes} {response : TokenResponse}
      (answer : (services.exchange s.journal.exchanges.length
        (app.refreshRequest app.authority scopes refreshToken)).answer = .ok response)
      (untold : Untold response) : Brings app services s (.redeem refreshToken scopes)
        response.accessToken
  | acquire {account : Account} {scopes : Scopes} {force : Bool} {authority : Authority}
      {refreshToken : String} {response : TokenResponse} (nameless : account.homeAccountId = "")
      (asked : app.authorityFor account = .ok authority)
      (answer : (services.exchange s.journal.exchanges.length
        (app.refreshRequest authority scopes refreshToken)).answer = .ok response)
      (untold : Untold response) : Brings app services s (.acquire (.account account scopes force))
        response.accessToken

variable {app : Application} {services : Services} {made : List RefreshRequest}

/-- An operation brings in such a token only by an answer that tells no home account. -/
theorem Brings.exists_answer {s : Session} {op : Operation} {token : String}
    (h : app.Brings services s op token) :
    ∃ n request response, (services.exchange n request).answer = .ok response ∧
      Untold response := by
  cases h with
  | redeem answer untold => exact ⟨_, _, _, answer, untold⟩
  | acquire _ _ answer untold => exact ⟨_, _, _, answer, untold⟩

/-- Caching a response keeps the condition if its token satisfies it, or is cached for a home
account. -/
theorem leads_cacheResponse {authority : Authority} {metadata : InstanceMetadata} {scopes : Scopes}
    {account : Option Account} {response : TokenResponse}
    (hnew : Untold response → (∀ a, account = some a → a.homeAccountId = "") →
      P response.accessToken) :
    Leads services (Session.OwnTokensIn P) (fun _ => Session.OwnTokensIn P)
      (app.cacheResponse authority metadata scopes account response) := by
  unfold cacheResponse
  refine Leads.bind_of_keeps _ (leads_view fun _ h => h) (fun _ h => h) fun now => ?_
  refine Leads.bind_of_keeps _ (leads_changing_ownTokensIn ?_ ?_) (fun _ h => h) fun saved =>
    leads_pure fun _ h => h
  · intro store hstore
    apply hstore.saveResponse
    intro hhome
    obtain ⟨huntold, haccount⟩ := Issued.homeAccountId_eq_empty_iff.1 hhome
    exact hnew huntold haccount
  · exact fun store hstore => hstore.saveResponse _

/-- A refresh for an account keeps the condition if the token that it brings in satisfies it. -/
theorem leads_refresh {authority : Authority} {metadata : InstanceMetadata} {account : Account}
    {scopes : Scopes} {plan : RefreshPlan} (hservices : services.OwnTokensIn P)
    (hnew : ∀ response, (services.exchange made.length
      (app.refreshRequest authority scopes plan.refreshToken)).answer = .ok response →
        Untold response → account.homeAccountId = "" → P response.accessToken) :
    Leads services (Stage P made) (fun _ => Session.OwnTokensIn P)
      (app.refresh authority metadata account scopes plan) := by
  unfold refresh
  refine Leads.bind _ (leads_exchange_stage hservices) (fun _ _ h => h.2) fun answer => ?_
  refine Leads.bind_of_keeps (Session.OwnTokensIn P) ?_ (fun _ h => h) fun refreshed =>
    leads_ofExcept fun _ h => h
  rintro s ⟨hanswer, hs⟩
  cases answer with
  | error e => exact hs
  | ok response =>
    refine Leads.bind_of_keeps _ (leads_cacheResponse ?_) (fun _ h => h)
      (fun _ => leads_pure fun _ h => h) s hs
    intro huntold haccount
    exact hnew response (Except.ok.inj hanswer).symm huntold (haccount account rfl)

/-- An acquisition for an account keeps the condition if the token that it brings in satisfies
it. -/
theorem leads_acquireFor {account : Account} {scopes : Scopes} {force : Bool}
    (hservices : services.OwnTokensIn P)
    (hnew : ∀ authority refreshToken response, app.authorityFor account = .ok authority →
      (services.exchange made.length
        (app.refreshRequest authority scopes refreshToken)).answer = .ok response →
        Untold response → account.homeAccountId = "" → P response.accessToken) :
    Leads services (Stage P made) (fun _ => Session.OwnTokensIn P)
      (app.acquireFor account scopes force) := by
  unfold acquireFor
  refine Leads.bind (fun result s => result = app.authorityFor account ∧ Stage P made s)
    (leads_ofExcept fun _ h => ⟨rfl, h⟩) (fun _ _ h => h.2.1) fun authority => ?_
  rintro s ⟨hauthority, hs⟩
  revert s
  refine Leads.bind_of_keeps _ leads_resolve_stage (fun _ h => h.1) fun metadata => ?_
  refine Leads.bind_of_keeps _ (leads_view fun _ h => h) (fun _ h => h.1) fun aliases => ?_
  refine Leads.bind_of_keeps _ (leads_view fun _ h => h) (fun _ h => h.1) fun now => ?_
  refine Leads.bind_of_keeps _ leads_reading_stage (fun _ h => h.1) fun offered => ?_
  refine Leads.bind_of_keeps _ (leads_ofExcept fun _ h => h) (fun _ h => h.1) fun offer => ?_
  cases offer with
  | hit found => exact leads_pure fun _ h => h.1
  | refresh plan =>
    exact leads_refresh hservices fun response => hnew authority _ response hauthority.symm

/-- Redeeming a refresh token keeps the condition if the token that it brings in satisfies it. -/
theorem leads_redeem {refreshToken : String} {scopes : Scopes}
    (hservices : services.OwnTokensIn P)
    (hnew : ∀ response, (services.exchange made.length
      (app.refreshRequest app.authority scopes refreshToken)).answer = .ok response →
        Untold response → P response.accessToken) :
    Leads services (Stage P made) (fun _ => Session.OwnTokensIn P)
      (app.redeem refreshToken scopes) := by
  unfold redeem
  refine Leads.bind_of_keeps _ leads_resolve_stage (fun _ h => h.1) fun metadata => ?_
  refine Leads.bind _ (leads_exchange_stage hservices) (fun _ _ h => h.2) fun answer => ?_
  rintro s ⟨hanswer, hs⟩
  cases answer with
  | error e => exact hs
  | ok response =>
    refine leads_cacheResponse ?_ s hs
    intro huntold _
    exact hnew response (Except.ok.inj hanswer).symm huntold

/-- A request of the application itself brings in nothing. -/
theorem leads_acquireOwn {scopes : Scopes} :
    Leads services (Stage P made) (fun _ => Session.OwnTokensIn P) (app.acquireOwn scopes) := by
  unfold acquireOwn
  refine Leads.bind_of_keeps _ leads_resolve_stage (fun _ h => h.1) fun metadata => ?_
  refine Leads.bind_of_keeps _ (leads_view fun _ h => h) (fun _ h => h.1) fun now => ?_
  exact Leads.bind_of_keeps _ leads_reading_stage (fun _ h => h.1) fun found =>
    leads_ofExcept fun _ h => h.1

/-- Listing accounts brings in nothing. -/
theorem leads_accounts :
    Leads services (Stage P made) (fun _ => Session.OwnTokensIn P) app.accounts := by
  unfold accounts
  refine Leads.bind_of_keeps _ leads_resolve_stage (fun _ h => h.1) fun metadata => ?_
  exact leads_reading_stage.weaken (fun _ h => h) fun _ _ h => h.1

/-- Removing an account brings in nothing. -/
theorem leads_removeAccount {account : Account} :
    Leads services (Stage P made) (fun _ => Session.OwnTokensIn P)
      (app.removeAccount account) := by
  unfold removeAccount
  refine Leads.bind_of_keeps _ leads_resolve_stage (fun _ h => h.1) fun metadata => ?_
  refine Leads.bind_of_keeps _ (leads_view fun _ h => h.1) (fun _ h => h) fun aliases => ?_
  exact leads_changing_ownTokensIn
    (fun store hstore => hstore.withoutAccount account.homeAccountId aliases)
    fun store hstore => hstore.withoutAccount account.homeAccountId aliases

/-- **Step.** An operation keeps the condition if the tokens that it brings in satisfy it, and so do
those that others persist meanwhile. -/
theorem perform_ownTokensIn {s : Session} (hs : s.OwnTokensIn P)
    (hservices : services.OwnTokensIn P) {op : Operation}
    (hnew : ∀ token, app.Brings services s op token → P token) :
    (app.perform services s op).OwnTokensIn P := by
  have hstage : Stage P s.journal.exchanges s := ⟨hs, rfl⟩
  cases op with
  | acquire request =>
    cases request with
    | app scopes => exact leads_acquireOwn s hstage
    | account account scopes force =>
      refine leads_acquireFor hservices ?_ s hstage
      intro authority refreshToken response hasked hanswer huntold hnameless
      exact hnew _ (.acquire hnameless hasked hanswer huntold)
  | redeem refreshToken scopes =>
    refine leads_redeem hservices ?_ s hstage
    intro response hanswer huntold
    exact hnew _ (.redeem hanswer huntold)
  | accounts => exact leads_accounts s hstage
  | remove account => exact leads_removeAccount s hstage
  | wait now => exact hs.of_same rfl rfl

/-- **Run.** Operations one after another bring in no other tokens without a home account than each
of them does where it stands. -/
theorem run_ownTokensIn {s : Session} (hs : s.OwnTokensIn P) (hservices : services.OwnTokensIn P)
    {ops : List Operation}
    (hnew : ∀ before op after token, ops = before ++ op :: after →
      app.Brings services (app.run services s before) op token → P token) :
    (app.run services s ops).OwnTokensIn P := by
  induction ops generalizing s with
  | nil => exact hs
  | cons op rest ih =>
    refine ih (perform_ownTokensIn hs hservices fun token => hnew [] op rest token rfl) ?_
    intro before op' after token hrest hbrings
    exact hnew (op :: before) op' after token (congrArg (op :: ·) hrest) hbrings

/-! ### Requests of the application itself -/

/-- A request of the application itself fails whatever the store holds: its host cannot be resolved,
or the session refuses to be read. -/
def Hindered (app : Application) (services : Services) (s : Session) (e : Error) : Prop :=
  (app.resolve app.authority services s).1 = .error e ∨ s.Refuses e

/-- A request of the application itself is hindered, or it gives what the opened cache holds. -/
theorem acquireOwn_cases {scopes : Scopes} {s : Session} {result : Except Error AuthResult}
    (h : (app.acquireOwn scopes services s).1 = result) :
    (∃ e, result = .error e ∧ app.Hindered services s e) ∨
      ∃ aliases c, s.opened = .ok c ∧ result =
        (c.store.findAccessToken (app.ownTokenQuery scopes aliases s.now)).elim
          (.error (.cacheMiss .noAppToken)) fun r => .ok (.ofCache r none none) := by
  have hrun : app.acquireOwn scopes services s = (result, (app.acquireOwn scopes services s).2) :=
    Prod.ext h rfl
  rcases bind_cases hrun with ⟨e, hresolve, rfl⟩ | ⟨metadata, resolved, hresolve, hrun⟩
  · exact .inl ⟨e, rfl, .inl (congrArg Prod.fst hresolve)⟩
  have hsame := resolve_sameAccess hresolve
  obtain ⟨_, hview, _⟩ | ⟨now, viewed, hview, hrun⟩ := bind_cases hrun
  · cases hview
  obtain ⟨rfl, rfl⟩ := view_eq_ok_iff.1 hview
  rcases bind_cases hrun with ⟨e, hreading, rfl⟩ | ⟨found, read, hreading, hrun⟩
  · exact .inl ⟨e, rfl, .inr (hsame.refuses_iff.1 (reading_eq_error hreading))⟩
  obtain ⟨c, hopened, rfl, _⟩ := reading_eq_ok hreading
  refine .inr ⟨metadata.aliases, c, hsame.opened ▸ hopened, ?_⟩
  rw [← hsame.now]
  exact (Prod.mk.inj hrun).1.symm

/-- **Whose tokens an application is given as its own.** After operations on a session without
tokens of the application itself, where others persist none either, a request of the application
itself misses the cache, or it is hindered, or it gets a token that one of the operations brought in:
one that the identity provider issued for a refresh token, in a response that tells no home
account. -/
theorem acquire_app_of_run {s : Session} (hs : s.OwnTokensIn fun _ => False)
    (hservices : services.OwnTokensIn fun _ => False) (ops : List Operation) (scopes : Scopes) :
    (app.acquire (.app scopes) services (app.run services s ops)).1 =
        .error (.cacheMiss .noAppToken) ∨
      (∃ e, (app.acquire (.app scopes) services (app.run services s ops)).1 = .error e ∧
        app.Hindered services (app.run services s ops) e) ∨
      ∃ result before op after, ops = before ++ op :: after ∧
        (app.acquire (.app scopes) services (app.run services s ops)).1 = .ok result ∧
        app.Brings services (app.run services s before) op result.accessToken := by
  let Brought (token : String) : Prop := ∃ before op after, ops = before ++ op :: after ∧
    app.Brings services (app.run services s before) op token
  have htokens : (app.run services s ops).OwnTokensIn Brought := by
    refine run_ownTokensIn (hs.mono fun _ => False.elim) ?_ ?_
    · exact fun n request content hcontent =>
        (hservices n request content hcontent).mono fun _ => False.elim
    · exact fun before op after token hops hbrings => ⟨before, op, after, hops, hbrings⟩
  obtain hhindered | ⟨aliases, c, hopened, hresult⟩ :=
    @acquireOwn_cases app services scopes (app.run services s ops) _ rfl
  · exact .inr (.inl hhindered)
  cases hfound : c.store.findAccessToken
    (app.ownTokenQuery scopes aliases (app.run services s ops).now) with
  | none =>
    rw [hfound] at hresult
    exact .inl hresult
  | some r =>
    rw [hfound] at hresult
    obtain ⟨before, op, after, hops, hbrings⟩ :=
      (htokens.opened hopened).tokens.of_findAccessToken rfl hfound
    exact .inr (.inr ⟨_, before, op, after, hops, hresult, hbrings⟩)

/-! ### A refresh token of a user -/

namespace Sample

/-- An application for one tenant. -/
def tenantApplication : Application :=
  ⟨"client", Issued.Sample.authority "login.example.org" "utid", .standard⟩

/-- A session in which nothing was cached so far. -/
def fresh : Session := ⟨.new, .offline, ⟨1000⟩, none, .empty⟩

/-- An identity provider that issues a token to read, and says in `clientInfo` to whom. -/
def disclosing (clientInfo : Option String) : Services :=
  ⟨fun _ _ => none, fun _ _ =>
    ⟨.ok ⟨"at", none, none, ⟨9000⟩, none, none, .ofText "read", none, clientInfo⟩, none, ⟨0⟩⟩⟩

/-- What a request of the application itself gets after a refresh token of a user was redeemed. -/
def afterRedemption (clientInfo : Option String) : Except Error AuthResult :=
  (tenantApplication.acquire (.app (.ofText "read")) (disclosing clientInfo)
    (tenantApplication.run (disclosing clientInfo) fresh [.redeem "rt" (.ofText "read")])).1

/-- In a new session there is no token of the application itself. -/
theorem ownTokensIn_fresh : fresh.OwnTokensIn fun _ => False := by
  refine ⟨⟨?_, Store.fits_empty.1, ?_⟩, ?_⟩
  · intro r hr
    cases hr
  · intro b hb
    cases hb
  · intro storage hstorage
    cases hstorage

/-- With such a provider there is nobody else who persists a token of the application itself. -/
theorem ownTokensIn_disclosing (clientInfo : Option String) :
    (disclosing clientInfo).OwnTokensIn fun _ => False := by
  intro n request content hcontent
  cases hcontent

end Sample

/-- If the response tells the user u of the tenant v, the request of the application misses the
cache. -/
theorem acquire_app_of_run_disclosed :
    Sample.afterRedemption (some "eyJ1aWQiOiJ1IiwidXRpZCI6InYifQ") =
      .error (.cacheMiss .noAppToken) := by
  obtain hmiss | ⟨_, _, hhindered⟩ | ⟨_, _, _, _, _, _, hbrings⟩ :=
    acquire_app_of_run Sample.ownTokensIn_fresh
      (Sample.ownTokensIn_disclosing (some "eyJ1aWQiOiJ1IiwidXRpZCI6InYifQ"))
      [.redeem "rt" (.ofText "read")] (.ofText "read")
  · exact hmiss
  · rcases hhindered with hresolve | hopened | ⟨_, _, hstorage, _⟩
    · cases hresolve
    · cases hopened
    · cases hstorage
  · obtain ⟨_, _, _, hanswer, huntold⟩ := hbrings.exists_answer
    cases hanswer
    exact absurd huntold (by decide +kernel)

/-- If the response tells no home account, the application gets the token of the user as its own,
from a session that held no token of the application itself. -/
theorem acquire_app_gets_user_token :
    Sample.fresh.OwnTokensIn (fun _ => False) ∧
      (Sample.disclosing none).OwnTokensIn (fun _ => False) ∧
      Sample.afterRedemption none =
        .ok ⟨"at", none, ⟨9000⟩, .ofText "read", none, .cache⟩ :=
  ⟨Sample.ownTokensIn_fresh, Sample.ownTokensIn_disclosing none, by decide +kernel⟩

end Application

end SilentAuth
