import SilentAuth.Cache.Save
import SilentAuth.Plan
import SilentAuth.Session

/-!
# Client applications

An application serves requests for tokens without the help of a user: from its cache if it can, else
by redeeming a refresh token and caching what is issued. It also lists and removes accounts. The
cache is accessed in brackets of loading and storing; while a refresh token is redeemed there is no
bracket open, so others may access the persisted cache.
-/

namespace SilentAuth

/-- How an application wants to be served. -/
structure ApplicationConfig where
  /-- How long a cached access token has to be valid in order to be returned. -/
  expiryBuffer : Span
  /-- Whether instance discovery has to vouch for the hosts of authorities. -/
  validateAuthority : Bool
deriving DecidableEq

/-- Five minutes, and validation. -/
def ApplicationConfig.standard : ApplicationConfig := ⟨⟨300⟩, true⟩

/-- A client application. -/
structure Application where
  clientId : String
  /-- The authority from which tokens are requested. -/
  authority : Authority
  config : ApplicationConfig

namespace Application

/-- Finds out what is known about the host of an authority. -/
def resolve (app : Application) (a : Authority) : Action InstanceMetadata :=
  Action.resolve a app.config.validateAuthority

/-! ### Tokens of the application itself -/

/-- The query for a token of the application itself. -/
def ownTokenQuery (app : Application) (scopes : Scopes) (aliases : List String) (now : UnixTime) :
    AccessTokenQuery where
  homeAccountId := none
  realm := app.authority.tenant
  clientId := app.clientId
  scopes := scopes
  aliases := aliases
  now := now
  buffer := app.config.expiryBuffer

/-- Acquires a token of the application itself from the cache. -/
def acquireOwn (app : Application) (scopes : Scopes) : Action AuthResult := do
  let metadata ← app.resolve app.authority
  let now ← Action.view Session.now
  let found ← Action.reading app.clientId none fun store =>
    store.findAccessToken (app.ownTokenQuery scopes metadata.aliases now)
  Action.ofExcept (found.elim (.error (.cacheMiss .noAppToken)) fun r => .ok (.ofCache r none none))

/-! ### Caching new tokens -/

/-- What the application gets when new tokens were issued, and `saved` is the account to which they
belong. -/
def issuedResult (scopes : Scopes) (account saved : Option Account) (response : TokenResponse) :
    AuthResult where
  accessToken := response.accessToken
  idToken := response.idToken
  expiresOn := response.expiresOn
  scopes := (if response.scopes.isEmpty then scopes else response.scopes).withoutReserved
  account := saved.or account
  source := .identityProvider

/-- Caches the tokens of a response. -/
def cacheResponse (app : Application) (authority : Authority) (metadata : InstanceMetadata)
    (scopes : Scopes) (account : Option Account) (response : TokenResponse) :
    Action AuthResult := do
  let now ← Action.view Session.now
  let issued : Issued := {
    context := {
      authority, account, now
      environment := metadata.preferredCache
      aliases := metadata.aliases
      clientId := app.clientId
      requestedScopes := scopes }
    response }
  let saved ← Action.changing app.clientId account (fun _ => issued.account?)
    fun store => store.saveResponse issued
  return issuedResult scopes account saved response

/-! ### Tokens for an account -/

/-- The authority to ask about an account: that of its tenant if the application names none. -/
def authorityFor (app : Application) (account : Account) : Except Error Authority :=
  if app.authority.isTenantless && account.tenantId ≠ "" then
    (app.authority.withTenant account.tenantId).mapError .invalidAuthority
  else .ok app.authority

/-- The hosts under which an account may be cached. -/
def accountAliases (metadata : InstanceMetadata) (discovery : DiscoveryCache) (account : Account) :
    List String :=
  if metadata.hasAlias account.environment then metadata.aliases
  else discovery.aliasesFor account.environment

/-- The request that a plan asks for. -/
def refreshRequest (app : Application) (authority : Authority) (scopes : Scopes)
    (refreshToken : String) : RefreshRequest :=
  ⟨authority, app.clientId, refreshToken, scopes.withoutReserved⟩

/-- Caches the answer to a refresh for an account, if it is not a failure. -/
def cacheAnswer (app : Application) (authority : Authority) (metadata : InstanceMetadata)
    (account : Account) (scopes : Scopes) :
    Except ServiceError TokenResponse → Action (Except ServiceError AuthResult)
  | .ok response => do
    return .ok (← app.cacheResponse authority metadata scopes (some account) response)
  | .error e => return .error e

/-- Makes a refresh. -/
def refresh (app : Application) (authority : Authority) (metadata : InstanceMetadata)
    (account : Account) (scopes : Scopes) (plan : RefreshPlan) : Action AuthResult := do
  let answer ← Action.exchange (app.refreshRequest authority scopes plan.refreshToken)
  let refreshed ← app.cacheAnswer authority metadata account scopes answer
  Action.ofExcept ((concludeRefresh plan.reason plan.cached refreshed).map RefreshOutcome.result)

/-- Takes what the store offers. -/
def take (app : Application) (authority : Authority) (metadata : InstanceMetadata)
    (account : Account) (scopes : Scopes) : Offer → Action AuthResult
  | .hit result => return result
  | .refresh plan => app.refresh authority metadata account scopes plan

/-- What is looked for on behalf of an account. -/
def accountQuery (app : Application) (authority : Authority) (account : Account) (scopes : Scopes)
    (forceRefresh : Bool) (aliases : List String) (now : UnixTime) : AccountQuery where
  account := account
  clientId := app.clientId
  authorityTenant := authority.tenant
  scopes := scopes
  forceRefresh := forceRefresh
  aliases := aliases
  now := now
  buffer := app.config.expiryBuffer

/-- Acquires a token for an account. -/
def acquireFor (app : Application) (account : Account) (scopes : Scopes) (forceRefresh : Bool) :
    Action AuthResult := do
  let authority ← Action.ofExcept (app.authorityFor account)
  let metadata ← app.resolve authority
  let aliases ← Action.view fun s => accountAliases metadata s.discovery account
  let now ← Action.view Session.now
  let offer ← Action.reading app.clientId (some account) fun store =>
    store.offer (app.accountQuery authority account scopes forceRefresh aliases now)
  app.take authority metadata account scopes (← Action.ofExcept (offer.mapError .cacheMiss))

/-- Acquires a token without the help of a user. -/
def acquire (app : Application) : SilentRequest → Action AuthResult
  | .app scopes => app.acquireOwn scopes
  | .account account scopes forceRefresh => app.acquireFor account scopes forceRefresh

/-! ### Refresh tokens from elsewhere -/

/-- Redeems a refresh token that was not cached, and caches what is issued. -/
def redeem (app : Application) (refreshToken : String) (scopes : Scopes) : Action AuthResult := do
  let metadata ← app.resolve app.authority
  let answer ← Action.exchange (app.refreshRequest app.authority scopes refreshToken)
  let response ← Action.ofExcept (answer.mapError .service)
  app.cacheResponse app.authority metadata scopes none response

/-! ### Accounts -/

/-- The accounts that are cached for the authority of the application. -/
def accounts (app : Application) : Action (List Account) := do
  let metadata ← app.resolve app.authority
  Action.reading app.clientId none fun store =>
    (store.accounts.values.filter fun r => metadata.hasAlias r.environment).map Account.ofRecord

/-- Removes everything that is cached for an account, and says how many records went. -/
def removeAccount (app : Application) (account : Account) : Action Nat := do
  let _ ← app.resolve app.authority
  let aliases ← Action.view fun s => s.discovery.aliasesFor account.environment
  Action.changing app.clientId (some account)
    (fun store => (store.removeAccount account.homeAccountId aliases).1)
    fun store => (store.removeAccount account.homeAccountId aliases).2

end Application

/-! ### Descriptions -/

/-- The configuration as it is shown to developers. -/
def ApplicationConfig.description (config : ApplicationConfig) : String :=
  "ApplicationConfig \x7b expiry_buffer: DurationSecs(" ++
    Numeral.write config.expiryBuffer.seconds.toNat ++ "), validate_authority: " ++
    DiscoveryCache.flagText config.validateAuthority ++ " \x7d"

namespace Application

/-- Who the application is, as it is shown to developers. -/
def identityText (app : Application) : String :=
  "client_id: " ++ Quoted.write app.clientId ++ ", authority: " ++ app.authority.description ++
    ", config: " ++ app.config.description

/-- An application that is about to be built, as it is shown to developers. -/
def blueprint (app : Application) (isPersisted : Bool) : String :=
  "ClientApplicationBuilder \x7b " ++ app.identityText ++ ", has_hook: " ++
    DiscoveryCache.flagText isPersisted ++ " \x7d"

/-- The application as it is shown to developers. -/
def description (app : Application) (discovery : DiscoveryCache) (isPersisted : Bool) : String :=
  "ClientApplication \x7b " ++ app.identityText ++ ", discovery: " ++ discovery.description ++
    ", has_hook: " ++ DiscoveryCache.flagText isPersisted ++ " \x7d"

end Application

end SilentAuth
