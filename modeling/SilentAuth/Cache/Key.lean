import SilentAuth.Text.Case

/-!
# Keys of cached records

A key is made of the parts of a record's identity, folded in case and joined by a separator. The
separator and the escape character are escaped inside a part, so no part can be taken for two.
-/

namespace SilentAuth

/-- The kinds of tokens that records hold. -/
inductive CredentialType where
  | accessToken
  | refreshToken
  | idToken
deriving DecidableEq

namespace CredentialType

/-- The name of a kind in keys and records. -/
def name : CredentialType → String
  | .accessToken => "AccessToken"
  | .refreshToken => "RefreshToken"
  | .idToken => "IdToken"

/-- The kind with a name. -/
def ofName? (name : String) : Option CredentialType :=
  [accessToken, refreshToken, idToken].find? fun kind => kind.name == name

end CredentialType

namespace CacheKey

/-- How a character stands inside a key. -/
def escapeChar (c : Char) : List Char :=
  if c = '%' then ['%', '2', '5']
  else if c = '-' then ['%', '2', 'd']
  else [c.toLower]

/-- A part of a key, escaped and folded. -/
def escape (part : String) : String := String.ofList (part.toList.flatMap escapeChar)

/-- The key made of these parts. -/
def join (parts : List String) : String := String.intercalate "-" (parts.map escape)

/-- The key of an access token. -/
def accessToken (homeAccountId environment clientId realm target : String) : String :=
  join [homeAccountId, environment, CredentialType.accessToken.name, clientId, realm, target]

/-- A text that is not empty. -/
def nonEmpty? (s : Option String) : Option String := s.filter (· != "")

/-- Whom a refresh token belongs to: its family, else its client. -/
def refreshTokenOwner (clientId : String) (familyId : Option String) : String :=
  (nonEmpty? familyId).getD clientId

/-- The key of a refresh token. The members of a family share one token. -/
def refreshToken (homeAccountId environment clientId : String) (familyId : Option String) :
    String :=
  join [homeAccountId, environment, CredentialType.refreshToken.name,
    refreshTokenOwner clientId familyId, "", ""]

/-- The key of an ID token. -/
def idToken (homeAccountId environment clientId realm : String) : String :=
  join [homeAccountId, environment, CredentialType.idToken.name, clientId, realm, ""]

/-- The key of an account. -/
def account (homeAccountId environment realm : String) : String :=
  join [homeAccountId, environment, realm]

/-- The key of what is known about an application. -/
def appMetadata (environment clientId : String) : String :=
  join ["appmetadata", environment, clientId]

end CacheKey

end SilentAuth
