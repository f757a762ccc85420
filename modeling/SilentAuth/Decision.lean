import SilentAuth.Account
import SilentAuth.Cache.Lookup
import SilentAuth.Error

/-!
# Choosing between a cached token and a refresh

Whether a cached access token is good enough, which refresh token to redeem if it is not, and what a
failed refresh means. All of this depends on the cache and the time alone.
-/

namespace SilentAuth

/-! ### Requests -/

/-- A request for a token without the help of a user. -/
inductive SilentRequest where
  /-- A token of the application itself; it comes from the cache or not at all. -/
  | app (scopes : Scopes)
  /-- A token for an account, new in any case if `forceRefresh` is set. -/
  | account (account : Account) (scopes : Scopes) (forceRefresh : Bool)

namespace SilentRequest

/-- A request for a token of the application itself. -/
def forApp (scopes : Scopes) : SilentRequest := .app scopes

/-- A request for a token for an account. -/
def forAccount (account : Account) (scopes : Scopes) : SilentRequest :=
  .account account scopes false

/-- The same request for a new token; tokens of the application are never refreshed. -/
def withForceRefresh : SilentRequest → SilentRequest
  | .app scopes => .app scopes
  | .account user scopes _ => .account user scopes true

/-- The scopes asked for. -/
def scopes : SilentRequest → Scopes
  | .app scopes => scopes
  | .account _ scopes _ => scopes

end SilentRequest

/-! ### Decisions -/

/-- Why a refresh is needed. -/
inductive RefreshReason where
  /-- The request demands it. -/
  | forced
  /-- No access token is cached. -/
  | missing
  /-- The cached access token expires too soon. -/
  | expired
  /-- The cached access token is good, but the time to refresh it has come. -/
  | refreshOn
deriving DecidableEq

namespace RefreshReason

/-- Whether the cached token may be returned if the refresh fails. -/
def isSoft (reason : RefreshReason) : Bool := reason == .refreshOn

/-- The name of a reason. -/
def name : RefreshReason → String
  | .forced => "Forced"
  | .missing => "Missing"
  | .expired => "Expired"
  | .refreshOn => "RefreshOn"

end RefreshReason

/-- What to do about a request. -/
inductive Decision where
  /-- Return this token. -/
  | cacheHit (token : AccessTokenRecord)
  /-- Redeem a refresh token. -/
  | needsRefresh (reason : RefreshReason)

/-- Whether the cached access token can be returned. A blank token counts as none. An expired token
needs a refresh, forced or not. -/
def Decision.of (token : Option AccessTokenRecord) (forceRefresh : Bool) (now : UnixTime)
    (buffer : Span) : Decision :=
  match token with
  | none => .needsRefresh .missing
  | some r =>
    if r.secret = "" then .needsRefresh .missing
    else if !r.validAt (now.after buffer) then .needsRefresh .expired
    else if forceRefresh then .needsRefresh .forced
    else if r.refreshDueAt now then .needsRefresh .refreshOn
    else .cacheHit r

/-- The refresh token to redeem for a client. A client known to belong to a family prefers the token
of the family to its own; any other client prefers its own to one of any family. -/
def Store.selectRefreshToken (s : Store) (homeAccountId clientId : String)
    (aliases : List String) : Option RefreshTokenRecord :=
  match s.familyIdFor clientId aliases with
  | some family =>
    (s.findFamilyRefreshToken homeAccountId family aliases).or
      (s.findRefreshToken homeAccountId clientId aliases)
  | none =>
    (s.findRefreshToken homeAccountId clientId aliases).or
      (s.findAnyFamilyRefreshToken homeAccountId aliases)

/-! ### Results -/

/-- Where a token came from. -/
inductive TokenSource where
  | cache
  | identityProvider
deriving DecidableEq

/-- The name of a source. -/
def TokenSource.name : TokenSource → String
  | .cache => "Cache"
  | .identityProvider => "IdentityProvider"

/-- A token that was acquired. -/
structure AuthResult where
  accessToken : String
  /-- The ID token that is cached or was issued with it. -/
  idToken : Option String
  expiresOn : UnixTime
  /-- The scopes that the access token grants. -/
  scopes : Scopes
  /-- The account to which the token was issued, if any. -/
  account : Option Account
  source : TokenSource

/-- A cached access token as a result. -/
def AuthResult.ofCache (r : AccessTokenRecord) (idToken : Option String)
    (account : Option Account) : AuthResult where
  accessToken := r.secret
  idToken := idToken
  expiresOn := r.expiresOn
  scopes := r.target
  account := account
  source := .cache

/-- How a refresh ended. -/
inductive RefreshOutcome where
  /-- New tokens were issued. -/
  | refreshed (result : AuthResult)
  /-- The refresh failed, and the cached token was good enough. -/
  | degraded (cached : AuthResult) (error : ServiceError)

/-- What the application gets. -/
def RefreshOutcome.result : RefreshOutcome → AuthResult
  | .refreshed result => result
  | .degraded cached _ => cached

/-- What the end of a refresh means. A failure is passed over only if the refresh was a precaution
and a token is cached. -/
def concludeRefresh (reason : RefreshReason) (cached : Option AuthResult) :
    Except ServiceError AuthResult → Except Error RefreshOutcome
  | .ok result => .ok (.refreshed result)
  | .error error =>
    match cached with
    | some cached => if reason.isSoft then .ok (.degraded cached error) else .error (.service error)
    | none => .error (.service error)

end SilentAuth
