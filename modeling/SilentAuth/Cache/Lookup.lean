import SilentAuth.Cache.Store

/-!
# Lookups in a store

A lookup scans the records of a bucket in the order of their keys and compares fields without
regard to ASCII case. It is given all the host names of the environment it searches, so it finds
what was cached under any of them.
-/

namespace SilentAuth

/-- Which access token is looked for. -/
structure AccessTokenQuery where
  /-- The user's home account; nothing asks for a token of the application itself. -/
  homeAccountId : Option String
  /-- The tenant in which the token was issued. -/
  realm : String
  clientId : String
  /-- The scopes that the token has to grant; reserved ones are ignored. -/
  scopes : Scopes
  /-- The hosts under which it may be cached. -/
  aliases : List String
  now : UnixTime
  /-- How long the token has to be valid from now on. -/
  buffer : Span

/-- Whether a token is what the query looks for, be it valid or not. -/
def AccessTokenQuery.isMatch (q : AccessTokenQuery) (r : AccessTokenRecord) : Bool :=
  sameText r.homeAccountId (q.homeAccountId.getD "") && listed r.environment q.aliases &&
    sameText r.realm q.realm && sameText r.clientId q.clientId &&
    r.target.containsAll q.scopes.withoutReserved

/-- The access token that expires last; the last of several that expire at the same time. -/
def longestLived (records : List AccessTokenRecord) : Option AccessTokenRecord :=
  records.foldl
    (fun best r =>
      match best with
      | none => some r
      | some b => if r.expiresOn.before b.expiresOn then best else some r)
    none

namespace Store

/-- The first matching access token that stays valid for the buffer. -/
def findAccessToken (s : Store) (q : AccessTokenQuery) : Option AccessTokenRecord :=
  s.accessTokens.values.find? fun r => q.isMatch r && r.validAt (q.now.after q.buffer)

/-- The matching access token that expires last, be it valid or not. -/
def findLatestAccessToken (s : Store) (q : AccessTokenQuery) : Option AccessTokenRecord :=
  longestLived (s.accessTokens.values.filter q.isMatch)

/-- A refresh token of the account that was issued to the client. -/
def findRefreshToken (s : Store) (homeAccountId clientId : String) (aliases : List String) :
    Option RefreshTokenRecord :=
  s.refreshTokens.values.find? fun r =>
    belongs homeAccountId aliases r.homeAccountId r.environment && sameText r.clientId clientId

/-- A refresh token of the account that a family of clients shares. -/
def findFamilyRefreshToken (s : Store) (homeAccountId familyId : String) (aliases : List String) :
    Option RefreshTokenRecord :=
  s.refreshTokens.values.find? fun r =>
    belongs homeAccountId aliases r.homeAccountId r.environment &&
      r.family?.elim false (sameText · familyId)

/-- A refresh token of the account that any family of clients shares. -/
def findAnyFamilyRefreshToken (s : Store) (homeAccountId : String) (aliases : List String) :
    Option RefreshTokenRecord :=
  s.refreshTokens.values.find? fun r =>
    belongs homeAccountId aliases r.homeAccountId r.environment && r.family?.isSome

/-- The records of an account under the hosts. -/
def accountRecords (s : Store) (homeAccountId : String) (aliases : List String) :
    List AccountRecord :=
  s.accounts.values.filter fun r => belongs homeAccountId aliases r.homeAccountId r.environment

/-- A record of the account: the one for the tenant if a tenant is given and has one, else the
first. -/
def findAccount (s : Store) (homeAccountId : String) (realm : Option String)
    (aliases : List String) : Option AccountRecord :=
  let candidates := s.accountRecords homeAccountId aliases
  (realm.bind fun realm => candidates.find? fun r => sameText r.realm realm).or candidates.head?

/-- An ID token of the account that was issued to the client in the tenant. -/
def findIdToken (s : Store) (homeAccountId realm clientId : String) (aliases : List String) :
    Option IdTokenRecord :=
  s.idTokens.values.find? fun r =>
    belongs homeAccountId aliases r.homeAccountId r.environment && sameText r.realm realm &&
      sameText r.clientId clientId

/-- The family of clients that an application is known to belong to. -/
def familyIdFor (s : Store) (clientId : String) (aliases : List String) : Option String :=
  (s.appMetadata.values.filter fun r =>
    sameText r.clientId clientId && listed r.environment aliases).findSome? fun r =>
      CacheKey.nonEmpty? r.familyId

end Store

end SilentAuth
