import SilentAuth.Http.Message
import SilentAuth.Json.Decode
import SilentAuth.Refresh
import SilentAuth.Text.Blank
import SilentAuth.Url.Percent

/-!
# The token endpoint

A refresh token is redeemed by sending form data to the token endpoint of an authority. The answer
is a JSON object: the tokens with their lifetimes, or an error. Lifetimes become times by the clock
of the client, so they depend on no clock of the service. A token that lives long is refreshed at
half its life if the service does not say when.
-/

namespace SilentAuth

namespace TokenEndpoint

/-! ### The request -/

/-- The form that redeems a refresh token. -/
def form (r : RefreshRequest) : List (String × String) :=
  [("grant_type", "refresh_token"), ("client_id", r.clientId), ("refresh_token", r.refreshToken),
    ("scope", r.scopes.withReserved.text), ("client_info", "1")]

/-- The request to an endpoint. -/
def request (endpoint : Url) (r : RefreshRequest) : HttpRequest where
  method := "POST"
  target := String.ofList endpoint.target
  contentType := some formContentType
  body := Percent.encodeForms (form r)

/-! ### Tokens -/

/-- The tokens as the service sends them. -/
structure Grant where
  accessToken : String
  refreshToken : Option String
  idToken : Option String
  /-- How long the access token lives. -/
  lifetime : Span
  extendedLifetime : Option Span
  /-- After which time the access token should be refreshed. -/
  refreshIn : Option Span
  scope : Option String
  familyId : Option String
  clientInfo : Option String

/-- Reads a span: a whole number of seconds, or its text with blanks around it. -/
def span? : ParseTree → Option Span
  | .string s => do return ⟨← Numeral.read? (trimBlank (← s))⟩
  | tree => tree.natural?.map Span.mk

/-- How tokens are written. -/
def Grant.shape : ClosedShape :=
  ⟨["access_token", "refresh_token", "id_token", "expires_in", "ext_expires_in", "refresh_in",
    "scope", "foci", "client_info"], 4⟩

/-- Reads tokens. -/
def Grant.ofTree? (depth : Nat) (tree : ParseTree) : Option Grant := do
  let fields : Fields ← shape.fields? depth tree
  return {
    accessToken := ← fields.required? "access_token" ParseTree.text?
    refreshToken := ← fields.optional? "refresh_token" ParseTree.text?
    idToken := ← fields.optional? "id_token" ParseTree.text?
    lifetime := ← fields.required? "expires_in" span?
    extendedLifetime := ← fields.optional? "ext_expires_in" span?
    refreshIn := ← fields.optional? "refresh_in" span?
    scope := ← fields.optional? "scope" ParseTree.text?
    familyId := ← fields.optional? "foci" ParseTree.text?
    clientInfo := ← fields.optional? "client_info" ParseTree.text? }

/-- The longest life of tokens that are refreshed only if the service says so: two hours. -/
def longestUnhalved : Span := ⟨7200⟩

/-- After which time the access token should be refreshed. -/
def Grant.refreshAfter (g : Grant) : Option Span :=
  g.refreshIn.or
    (if longestUnhalved.seconds < g.lifetime.seconds then some ⟨g.lifetime.seconds / 2⟩ else none)

/-- The tokens with times by the clock of the client. -/
def Grant.response (g : Grant) (now : UnixTime) : TokenResponse where
  accessToken := g.accessToken
  refreshToken := g.refreshToken
  idToken := g.idToken
  expiresOn := now.after g.lifetime
  extendedExpiresOn := g.extendedLifetime.map now.after
  refreshOn := g.refreshAfter.map now.after
  scopes := g.scope.elim .empty Scopes.ofText
  familyId := g.familyId.filter (· != "")
  clientInfo := g.clientInfo

/-! ### Errors -/

/-- An error as the service sends it. -/
structure Refusal where
  error : Option String
  description : Option String
  correlationId : Option String

/-- How an error is written. -/
def Refusal.shape : ClosedShape := ⟨["error", "error_description", "correlation_id"], 0⟩

/-- Reads an error. -/
def Refusal.ofTree? (depth : Nat) (tree : ParseTree) : Option Refusal := do
  let fields : Fields ← shape.fields? depth tree
  return {
    error := ← fields.optional? "error" ParseTree.text?
    description := ← fields.optional? "error_description" ParseTree.text?
    correlationId := ← fields.optional? "correlation_id" ParseTree.text? }

/-- The error that a response of another status tells. A body that is no error object describes the
error as it stands. -/
def serviceError (r : HttpResponse) : ServiceError :=
  let refusal := (readBytes? Refusal.ofTree? r.body).getD ⟨none, none, none⟩
  { status := some r.status
    error := refusal.error
    description := refusal.description.or
      (if refusal.error.isNone && !r.body.isEmpty then some (String.ofList (Utf8.lossy r.body))
        else none)
    correlationId := (r.text? "client-request-id").or refusal.correlationId
    retryAfter := ((r.text? "retry-after").bind fun s => Numeral.read? (trimBlank s)).map Span.mk }

/-- The words for a body without tokens. -/
def unreadableBody : String := "unable to parse token response: "

/-- What the answer to a request means. -/
def answer (now : UnixTime) (r : HttpResponse) : Except ServiceError TokenResponse :=
  if !r.isSuccess then .error (serviceError r)
  else
    match readBytes? Grant.ofTree? r.body with
    | some grant => .ok (grant.response now)
    | none => .error { ServiceError.withStatus r.status with description := some unreadableBody }

/-- What comes of a request, if a response comes or `failure` tells why none does. -/
def outcome (now : UnixTime) (failure : String) (r : Option HttpResponse) :
    Except ServiceError TokenResponse :=
  (r.bind HttpResponse.accepted?).elim (.error (.transport failure)) (answer now)

end TokenEndpoint

end SilentAuth
