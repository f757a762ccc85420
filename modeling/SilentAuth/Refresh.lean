import SilentAuth.Error
import SilentAuth.Scope

/-!
# Redeeming refresh tokens

What is sent to the identity provider to get new tokens, and what it sends back.
-/

namespace SilentAuth

/-- A request to redeem a refresh token. -/
structure RefreshRequest where
  authority : Authority
  clientId : String
  refreshToken : String
  /-- The scopes asked for, without the reserved ones. -/
  scopes : Scopes

/-- The tokens that the identity provider issued. -/
structure TokenResponse where
  accessToken : String
  /-- A refresh token to use from now on. -/
  refreshToken : Option String
  idToken : Option String
  expiresOn : UnixTime
  /-- Until when the access token may be used while the service is down. -/
  extendedExpiresOn : Option UnixTime
  /-- From when on the access token should be refreshed. -/
  refreshOn : Option UnixTime
  /-- The scopes granted; none if the service did not say. -/
  scopes : Scopes
  /-- The family of clients that share the refresh token. -/
  familyId : Option String
  /-- What the service says about the client. -/
  clientInfo : Option String

end SilentAuth
