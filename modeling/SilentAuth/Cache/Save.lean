import SilentAuth.Account
import SilentAuth.Authority
import SilentAuth.Cache.Lookup
import SilentAuth.Refresh

/-!
# Caching the tokens of a response

A response becomes an access token record, a refresh token record and an ID token record if it has
such tokens, a record of the application, and a record of the account if it is known whose tokens
they are. Access tokens of the same user, client and tenant whose scopes overlap are replaced.
`Issued` is what the response and the request together say.
-/

namespace SilentAuth

/-- What a token response was issued for. -/
structure SaveContext where
  /-- The authority that was asked. -/
  authority : Authority
  /-- The host under which the tokens are recorded. -/
  environment : String
  /-- The hosts that are equivalent to it. -/
  aliases : List String
  clientId : String
  requestedScopes : Scopes
  /-- The account for which the tokens were requested, if any. -/
  account : Option Account
  /-- When the response came in. -/
  now : UnixTime

/-- A token response together with what it was issued for. -/
structure Issued where
  context : SaveContext
  response : TokenResponse

namespace Issued

variable (i : Issued)

/-- The claims of the ID token. -/
def claims : IdClaims := IdClaims.ofToken i.response.idToken

/-- The client info. -/
def clientInfo : ClientInfo := ClientInfo.ofResponse i.response.clientInfo

/-- The home account: from the client info, else from the request; empty if neither tells. -/
def homeAccountId : String :=
  (i.clientInfo.homeAccountId?.or (i.context.account.map Account.homeAccountId)).getD ""

/-- The tenant of the account in the request, if it names one. -/
def accountTenant? : Option String :=
  (i.context.account.map Account.tenantId).filter (· != "")

/-- The tenant in which the user signed in; ID tokens and accounts are recorded there. -/
def realm : String :=
  (i.claims.tid.or (if i.context.authority.isTenantless then i.accountTenant? else none)).getD
    i.context.authority.tenant

/-- The tenant from which the access token was requested, and by which it is found again. -/
def tokenRealm : String :=
  if i.context.authority.isTenantless then
    (i.accountTenant?.or i.claims.tid).getD i.context.authority.tenant
  else i.context.authority.tenant

/-- The scopes that the access token grants: those requested if the response does not say. -/
def target : Scopes :=
  (if i.response.scopes.isEmpty then i.context.requestedScopes
    else i.response.scopes).withoutReserved

/-- The host under which the tokens are recorded, in lower case. -/
def environment : String := foldCase i.context.environment

/-- The family of the client, unless it is blank. -/
def familyId? : Option String := CacheKey.nonEmpty? i.response.familyId

/-- Whether the new access token replaces a record. -/
def replaces (r : AccessTokenRecord) : Bool :=
  sameText r.homeAccountId i.homeAccountId &&
    (sameText r.environment i.environment || listed r.environment i.context.aliases) &&
    sameText r.realm i.tokenRealm && sameText r.clientId i.context.clientId &&
    r.target.intersects i.target

/-- The record of the access token. -/
def accessTokenRecord : AccessTokenRecord where
  homeAccountId := i.homeAccountId
  environment := i.environment
  credentialType := .accessToken
  clientId := i.context.clientId
  secret := i.response.accessToken
  realm := i.tokenRealm
  target := i.target
  cachedAt := i.context.now
  expiresOn := i.response.expiresOn
  extendedExpiresOn := i.response.extendedExpiresOn
  refreshOn := i.response.refreshOn
  extra := .empty

/-- The record of a refresh token. -/
def refreshTokenRecord (secret : String) : RefreshTokenRecord where
  homeAccountId := i.homeAccountId
  environment := i.environment
  credentialType := .refreshToken
  clientId := i.context.clientId
  secret := secret
  familyId := i.familyId?
  extra := .empty

/-- The record of an ID token. -/
def idTokenRecord (secret : String) : IdTokenRecord where
  homeAccountId := i.homeAccountId
  environment := i.environment
  credentialType := .idToken
  clientId := i.context.clientId
  secret := secret
  realm := i.realm
  extra := .empty

/-- The record of the application. -/
def appMetadataRecord : AppMetadataRecord where
  clientId := i.context.clientId
  environment := i.environment
  familyId := i.familyId?
  extra := .empty

/-- The record of the account. -/
def accountRecord : AccountRecord where
  homeAccountId := i.homeAccountId
  environment := i.environment
  realm := i.realm
  localAccountId := i.claims.localAccountId?.or i.clientInfo.uid
  username := i.claims.username?.or (i.context.account.bind Account.username)
  name := i.claims.name
  authorityType := some i.context.authority.kind.cacheName
  clientInfo := i.response.clientInfo
  extra := .empty

/-- The account to which the tokens belong, if it is known. -/
def account? : Option Account :=
  if i.homeAccountId = "" then none else some (Account.ofRecord i.accountRecord)

end Issued

namespace Store

/-- Drops the access tokens that a new one replaces. -/
def dropReplaced (s : Store) (i : Issued) : Store :=
  { s with accessTokens := s.accessTokens.filter fun _ r => !i.replaces r }

/-- Stores the account to which tokens belong, joined with its record under the same key. -/
def saveAccount (s : Store) (i : Issued) : Store :=
  if i.homeAccountId = "" then s else { s with accounts := s.accounts.upsert i.accountRecord }

/-- Stores everything that a token response carries. -/
def saveResponse (s : Store) (i : Issued) : Store :=
  let s := (s.dropReplaced i).putAccessToken i.accessTokenRecord
  let s := i.response.refreshToken.elim s fun secret =>
    s.putRefreshToken (i.refreshTokenRecord secret)
  let s := i.response.idToken.elim s fun secret => s.putIdToken (i.idTokenRecord secret)
  (s.putAppMetadata i.appMetadataRecord).saveAccount i

end Store

end SilentAuth
