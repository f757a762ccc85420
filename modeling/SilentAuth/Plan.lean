import SilentAuth.Decision

/-!
# What a store offers for a request

For an account that asks for a token, a store offers a cached access token, or a refresh token to
redeem, or nothing. All of it is read from one state of the store: the account record that is
handed back, the access token that expires last, the ID token of the account's tenant and the
refresh token.
-/

namespace SilentAuth

/-- What is looked for on behalf of an account. -/
structure AccountQuery where
  account : Account
  clientId : String
  /-- The tenant of the authority that is asked. -/
  authorityTenant : String
  scopes : Scopes
  forceRefresh : Bool
  /-- The hosts under which the account may be cached. -/
  aliases : List String
  now : UnixTime
  /-- How long a cached token has to be valid from now on. -/
  buffer : Span

namespace AccountQuery

/-- The tenant to which the account refers; that of the authority if it names none. -/
def accountTenant (q : AccountQuery) : String :=
  if q.account.tenantId = "" then q.authorityTenant else q.account.tenantId

/-- The query for the access token. -/
def accessTokenQuery (q : AccountQuery) : AccessTokenQuery where
  homeAccountId := some q.account.homeAccountId
  realm := q.authorityTenant
  clientId := q.clientId
  scopes := q.scopes
  aliases := q.aliases
  now := q.now
  buffer := q.buffer

end AccountQuery

/-- A refresh that has to be made. -/
structure RefreshPlan where
  reason : RefreshReason
  /-- The refresh token to redeem. -/
  refreshToken : String
  /-- The cached token to return if the refresh fails; there is none if it is not good enough. -/
  cached : Option AuthResult

/-- What a store offers. -/
inductive Offer where
  /-- The cached token. -/
  | hit (result : AuthResult)
  /-- A refresh token to redeem. -/
  | refresh (plan : RefreshPlan)

namespace Store

/-- The record of the account that is asked about. -/
def accountFor (s : Store) (q : AccountQuery) : Option AccountRecord :=
  s.findAccount q.account.homeAccountId (some q.accountTenant) q.aliases

/-- The refresh that the store offers; `cached` is kept only where it may be returned. -/
def planRefresh (s : Store) (q : AccountQuery) (reason : RefreshReason)
    (cached : Option AuthResult) : Except CacheMiss RefreshPlan :=
  match s.selectRefreshToken q.account.homeAccountId q.clientId q.aliases with
  | none => .error .noRefreshToken
  | some r => .ok ⟨reason, r.secret, if reason.isSoft then cached else none⟩

/-- What the store offers to an account. -/
def offer (s : Store) (q : AccountQuery) : Except CacheMiss Offer :=
  match s.accountFor q with
  | none => .error .noAccount
  | some record =>
    let known := Account.ofRecord record
    let idToken :=
      (s.findIdToken q.account.homeAccountId known.tenantId q.clientId q.aliases).map
        IdTokenRecord.secret
    let token := s.findLatestAccessToken q.accessTokenQuery
    match Decision.of token q.forceRefresh q.now q.buffer with
    | .cacheHit r => .ok (.hit (.ofCache r idToken (some known)))
    | .needsRefresh reason =>
      (s.planRefresh q reason (token.map fun r => .ofCache r idToken (some known))).map .refresh

end Store

end SilentAuth
