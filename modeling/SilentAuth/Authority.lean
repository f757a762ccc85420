import SilentAuth.Text.Case
import SilentAuth.Text.Quoted
import SilentAuth.Url

/-!
# Authorities

An authority is an issuer that an application trusts to issue tokens. Its URL names a host and,
in the path, a tenant; the first segment of the path tells the kind of the authority. From the parts
the URL is built anew, in canonical form, and with it the URLs of the endpoints. A directory can be
asked for tokens of another of its tenants.
-/

namespace SilentAuth

/-- The kinds of identity providers. -/
inductive AuthorityKind where
  /-- A directory of many tenants, which takes part in instance discovery. -/
  | aad
  /-- A federation service of one organization. -/
  | adfs
  /-- A service for consumers, with a policy for each flow. -/
  | b2c
deriving DecidableEq

namespace AuthorityKind

/-- The name under which a kind is recorded with accounts. -/
def cacheName : AuthorityKind → String
  | .aad => "MSSTS"
  | .adfs => "ADFS"
  | .b2c => "B2C"

/-- The name of a kind. -/
def name : AuthorityKind → String
  | .aad => "Aad"
  | .adfs => "Adfs"
  | .b2c => "B2c"

end AuthorityKind

/-- Why a text names no authority. -/
inductive InvalidAuthority where
  | unparseable (error : UrlError)
  | insecureScheme (scheme : String)
  | hasQuery
  | hasFragment
  | missingHost
  | missingPath
  | unsupportedB2c
deriving DecidableEq

/-- The words for an error. -/
def InvalidAuthority.message : InvalidAuthority → String
  | .unparseable error => "unable to parse authority URL: " ++ error.message
  | .insecureScheme scheme => "authority must use https, found " ++ scheme
  | .hasQuery => "authority must not have a query string"
  | .hasFragment => "authority must not have a fragment"
  | .missingHost => "authority must have a host"
  | .missingPath => "authority must have a tenant path segment"
  | .unsupportedB2c => "B2C authority must have the form https://host/tfp/tenant/policy"

/-- An authority. -/
structure Authority where
  kind : AuthorityKind
  /-- The host in lower case, with a port that is not the default one. -/
  host : String
  /-- The tenant that the authority names. -/
  tenant : String
  /-- The policy of a service for consumers. -/
  policy : Option String
  canonical : Url
  tokenEndpoint : Url
  authorizeEndpoint : Url
deriving DecidableEq

namespace Authority

/-- The segment that names a federation service. -/
def adfsSegment : String := "adfs"

/-- The segment before the tenant and policy of a service for consumers. -/
def b2cSegment : String := "tfp"

/-- The tenants that name no directory of their own. -/
def tenantlessNames : List String := ["common", "organizations", "consumers"]

/-- The text from which the canonical URL is read. A service for consumers has to have a policy. -/
def baseText (kind : AuthorityKind) (host tenant : String) (policy : Option String) :
    Except InvalidAuthority String :=
  match kind, policy with
  | .adfs, _ => .ok ("https://" ++ host ++ "/" ++ adfsSegment ++ "/")
  | .b2c, some policy =>
    .ok ("https://" ++ host ++ "/" ++ b2cSegment ++ "/" ++ tenant ++ "/" ++ policy ++ "/")
  | .b2c, none => .error .unsupportedB2c
  | .aad, _ => .ok ("https://" ++ host ++ "/" ++ tenant ++ "/")

/-- The names below the canonical URL that lead to the endpoints of a kind of authorities. -/
def endpointFolder : AuthorityKind → List String
  | .adfs => ["oauth2"]
  | .aad | .b2c => ["oauth2", "v2.0"]

/-- The authority with these parts. -/
def ofParts (kind : AuthorityKind) (host tenant : String) (policy : Option String) :
    Except InvalidAuthority Authority :=
  match baseText kind host tenant policy with
  | .error error => .error error
  | .ok base =>
    match Url.parse base with
    | .error error => .error (.unparseable error)
    | .ok canonical =>
      .ok {
        kind, host, tenant, policy, canonical
        tokenEndpoint := canonical.below (endpointFolder kind ++ ["token"])
        authorizeEndpoint := canonical.below (endpointFolder kind ++ ["authorize"]) }

/-- The authority that the segments of a path name, empty ones left out. -/
def ofSegments (host : String) (segments : List String) : Except InvalidAuthority Authority :=
  match segments with
  | [] => .error .missingPath
  | first :: rest =>
    if sameText first adfsSegment then ofParts .adfs host adfsSegment none
    else if sameText first b2cSegment then
      match rest with
      | tenant :: policy :: _ => ofParts .b2c host tenant (some policy)
      | _ => .error .unsupportedB2c
    else ofParts .aad host first none

/-- The authority that a URL names. -/
def ofUrl (url : Url) : Except InvalidAuthority Authority :=
  if url.scheme ≠ "https".toList then .error (.insecureScheme (String.ofList url.scheme))
  else if url.query.isSome then .error .hasQuery
  else if url.fragment.isSome then .error .hasFragment
  else
    match url.host with
    | none => .error .missingHost
    | some host =>
      ofSegments (foldCase (String.ofList (Url.writeHost host url.port)))
        ((url.segments.filter (!·.isEmpty)).map String.ofList)

/-- The authority that a text names. -/
def parse (text : String) : Except InvalidAuthority Authority :=
  match Url.parse text with
  | .error error => .error (.unparseable error)
  | .ok url => ofUrl url

/-- Whether the tenant stands for many directories. -/
def isTenantless (a : Authority) : Bool :=
  a.kind == .aad && listed a.tenant tenantlessNames

/-- The authority on the same host for another tenant. Only directories have other tenants. -/
def withTenant (a : Authority) (tenant : String) : Except InvalidAuthority Authority :=
  if a.kind ≠ .aad || sameText a.tenant tenant then .ok a
  else if tenant = "" || tenant.toList.contains '/' then .error .missingPath
  else ofParts a.kind a.host tenant none

/-- The canonical URL as text. -/
def text (a : Authority) : String := a.canonical.text

/-- The authority as it is shown to developers. -/
def description (a : Authority) : String :=
  "Authority \x7b kind: " ++ a.kind.name ++ ", url: " ++ Quoted.write a.text ++ " \x7d"

end Authority

end SilentAuth
