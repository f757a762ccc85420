import SilentAuth.Discovery
import SilentAuth.Http.Message
import SilentAuth.Url.Percent

/-!
# The discovery endpoint

Hosts are looked up at a place below the root of the discovery host, or of another base. The answer
is a discovery response as JSON text, whatever the status, unless the status tells a failure.
-/

namespace SilentAuth

namespace DiscoveryEndpoint

/-- Why a lookup gives no answer. -/
inductive Failure where
  /-- There is no URL to ask. -/
  | url
  /-- No response came. -/
  | transport
  /-- The status of the response tells a failure. -/
  | status
  /-- The body of the response is no answer. -/
  | json
deriving DecidableEq

/-- The name of a failure. -/
def Failure.name : Failure → String
  | .url => "Url"
  | .transport => "Transport"
  | .status => "Status"
  | .json => "Json"

/-- The root of the discovery host. -/
def root (q : DiscoveryRequest) : Except UrlError Url :=
  Url.parse ("https://" ++ q.discoveryHost ++ "/")

/-- The URL that looks a host up, from a base. -/
def address (base : Url) (q : DiscoveryRequest) : Url :=
  { base.below ["common", "discovery", "instance"] with
    query := some (Percent.encodeForms
      [("api-version", "1.1"), ("authorization_endpoint", q.authorizeEndpoint.text)]).toList }

/-- The request to an endpoint. -/
def request (base : Url) (q : DiscoveryRequest) : HttpRequest where
  method := "GET"
  target := String.ofList (address base q).target
  contentType := none
  body := ""

/-- What a response means. -/
def answer (r : HttpResponse) : Except Failure DiscoveryResponse :=
  if r.isFailure then .error .status
  else (readBytes? DiscoveryResponse.ofTree? r.body).elim (.error .json) .ok

/-- What comes of a request, if a response comes. -/
def outcome (r : Option HttpResponse) : Except Failure DiscoveryResponse :=
  (r.bind HttpResponse.accepted?).elim (.error .transport) answer

end DiscoveryEndpoint

end SilentAuth
