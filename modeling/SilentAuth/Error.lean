import SilentAuth.Authority
import SilentAuth.Text.Numeral
import SilentAuth.Time

/-!
# What can go wrong

Each error is a cause; its words are given by `message`.
-/

namespace SilentAuth

/-- Why nothing usable was found in the cache. -/
inductive CacheMiss where
  /-- No token of the application matches. -/
  | noAppToken
  /-- There is no record of the account. -/
  | noAccount
  /-- A new token is needed, and there is no refresh token for it. -/
  | noRefreshToken
deriving DecidableEq

/-- The words for a cause. -/
def CacheMiss.message : CacheMiss → String
  | .noAppToken => "no matching application token"
  | .noAccount => "account not found"
  | .noRefreshToken => "no refresh token available"

/-- Why instance discovery could not vouch for a host. -/
inductive DiscoveryFailure where
  /-- The discovery endpoint gave no usable answer. -/
  | request
  /-- The answer names no endpoint for the tenant. -/
  | missingTenantEndpoint
  /-- The answer does not mention the host. -/
  | unknownHost
  /-- Metadata given in advance is no discovery answer. -/
  | invalidMetadata
deriving DecidableEq

/-- The words for a cause. -/
def DiscoveryFailure.message : DiscoveryFailure → String
  | .request => "instance discovery request failed"
  | .missingTenantEndpoint => "instance discovery did not return a tenant discovery endpoint"
  | .unknownHost => "host not present in instance discovery metadata"
  | .invalidMetadata => "invalid instance discovery metadata"

/-- What the identity provider said about a token request that failed. -/
structure ServiceError where
  /-- The status of the response, if there was one. -/
  status : Option UInt16
  /-- The code of the error. -/
  error : Option String
  /-- The description of the error. -/
  description : Option String
  /-- The identifier of the request at the service. -/
  correlationId : Option String
  /-- How long to wait before the next request, as the service wishes. -/
  retryAfter : Option Span
deriving DecidableEq

namespace ServiceError

/-- An error about which nothing is known. -/
def unspecified : ServiceError := ⟨none, none, none, none, none⟩

/-- An error of which only the status is known. -/
def withStatus (status : UInt16) : ServiceError := { unspecified with status := some status }

/-- An error without a response. -/
def transport (description : String) : ServiceError :=
  { unspecified with description := some description }

/-- The words for an error: what is known of it. -/
def message (e : ServiceError) : String :=
  "token request failed" ++
    e.status.elim "" (fun status => " with status " ++ Numeral.write status.toNat) ++
    e.error.elim "" (": " ++ ·) ++
    e.description.elim "" (fun text => " (" ++ text ++ ")") ++
    e.correlationId.elim "" (fun id => " [correlation id " ++ id ++ "]")

end ServiceError

/-- Why a token was not acquired, or the cache not used. -/
inductive Error where
  | invalidAuthority (error : InvalidAuthority)
  /-- Instance discovery did not vouch for the host. -/
  | authorityNotTrusted (host : String) (source : Option DiscoveryFailure)
  | cacheMiss (reason : CacheMiss)
  | service (error : ServiceError)
  /-- The persisted text is no cache document. -/
  | malformedCacheData
  /-- The cache could not be loaded or stored. -/
  | storage
deriving DecidableEq

/-- The words for an error. -/
def Error.message : Error → String
  | .invalidAuthority error => "invalid authority: " ++ error.message
  | .authorityNotTrusted host _ => "authority host " ++ host ++ " is not trusted"
  | .cacheMiss reason => "no usable token in cache: " ++ reason.message
  | .service error => error.message
  | .malformedCacheData => "malformed cache data"
  | .storage => "cache access hook failed"

/-- Whether nothing usable was found in the cache. -/
def Error.isCacheMiss : Error → Bool
  | .cacheMiss _ => true
  | _ => false

end SilentAuth
