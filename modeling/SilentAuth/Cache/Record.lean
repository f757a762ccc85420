import SilentAuth.Cache.Key
import SilentAuth.Json.Decode
import SilentAuth.Scope
import SilentAuth.Text.Numeral
import SilentAuth.Time

/-!
# Cached records

There are five kinds of records: access tokens, refresh tokens, ID tokens, accounts, and what is
known about applications. A record keeps the fields it does not recognize, so that a cache shared
with other programs passes through unchanged. `CacheRecord` says what the kinds have in common:
how a record is read and written, which key it derives, and how its unrecognized fields are
replaced. Joining a record with a newer one takes every recognized field from the newer one, also
those it leaves unset, and merges the unrecognized fields.
-/

namespace SilentAuth

/-! ### Times in records -/

namespace UnixTime

/-- A time stands in a record as its decimal text. -/
def toJson (t : UnixTime) : Json := .string (Numeral.write t.seconds.toNat)

/-- Reads a time from its text, with blanks around it allowed, or from a whole number. -/
def read? (tree : ParseTree) : Option UnixTime :=
  match tree with
  | .number _ => tree.natural?.map UnixTime.mk
  | .string s => do return ⟨← Numeral.read? (trimBlank (← s))⟩
  | _ => none

end UnixTime

/-! ### What records have in common -/

/-- A kind of records that a cache holds. -/
class CacheRecord (α : Type) where
  /-- The names of the recognized fields, in the order in which they are written. -/
  recognized : List String
  /-- Reads the recognized fields; the unrecognized ones are given. -/
  ofFields? : Nat → Fields → Json.Members → Option α
  /-- The recognized fields as members, in order. -/
  fields : α → List (String × Json)
  /-- The unrecognized fields. -/
  extra : α → Json.Members
  /-- Replaces the unrecognized fields. -/
  withExtra : α → Json.Members → α
  /-- The key that the record derives. -/
  key : α → String

namespace CacheRecord

variable {α : Type} [CacheRecord α]

/-- Reads a record, with at most `depth` containers around each other. -/
def read? (depth : Nat) (tree : ParseTree) : Option α := do
  let fields : Fields ← tree.members? depth
  ofFields? (depth - 1) fields (← fields.others? (depth - 1) (recognized α))

/-- A record as an object: the recognized fields in order, then the others by name. -/
def toJson (r : α) : Json := .object (fields r ++ (extra r).entries)

/-- Joins a record with a newer one. -/
def merge (old update : α) : α := withExtra update ((extra old).merge (extra update))

end CacheRecord

/-- Reads the kind of a token. -/
def CredentialType.read? (depth : Nat) (tree : ParseTree) : Option CredentialType := do
  ofName? (← tree.caseName? depth)

/-- Reads a scope set from the text of its names. -/
def Scopes.read? (tree : ParseTree) : Option Scopes := tree.text?.map Scopes.ofText

/-! ### Access tokens -/

/-- A cached access token. -/
structure AccessTokenRecord where
  /-- The home account of the user, or empty for a token of the application itself. -/
  homeAccountId : String
  /-- The host that issued the token. -/
  environment : String
  credentialType : CredentialType
  /-- The client that the token was issued to. -/
  clientId : String
  /-- The token. -/
  secret : String
  /-- The tenant in which the token was issued. -/
  realm : String
  /-- The scopes that the token grants. -/
  target : Scopes
  cachedAt : UnixTime
  expiresOn : UnixTime
  /-- Until when the token may be used while the service is down. -/
  extendedExpiresOn : Option UnixTime
  /-- From when on the token should be refreshed, though it is still valid. -/
  refreshOn : Option UnixTime
  /-- The unrecognized fields. -/
  extra : Json.Members

namespace AccessTokenRecord

instance : CacheRecord AccessTokenRecord where
  recognized := ["home_account_id", "environment", "credential_type", "client_id", "secret",
    "realm", "target", "cached_at", "expires_on", "extended_expires_on", "refresh_on"]
  ofFields? depth fields extra := do
    return {
      homeAccountId := ← fields.defaulted? "home_account_id" "" ParseTree.text?
      environment := ← fields.required? "environment" ParseTree.text?
      credentialType := ← fields.required? "credential_type" (CredentialType.read? depth)
      clientId := ← fields.required? "client_id" ParseTree.text?
      secret := ← fields.required? "secret" ParseTree.text?
      realm := ← fields.defaulted? "realm" "" ParseTree.text?
      target := ← fields.required? "target" Scopes.read?
      cachedAt := ← fields.required? "cached_at" UnixTime.read?
      expiresOn := ← fields.required? "expires_on" UnixTime.read?
      extendedExpiresOn := ← fields.optional? "extended_expires_on" UnixTime.read?
      refreshOn := ← fields.optional? "refresh_on" UnixTime.read?
      extra }
  fields r :=
    [("home_account_id", .string r.homeAccountId), ("environment", .string r.environment),
      ("credential_type", .string r.credentialType.name), ("client_id", .string r.clientId),
      ("secret", .string r.secret), ("realm", .string r.realm),
      ("target", .string r.target.text), ("cached_at", r.cachedAt.toJson),
      ("expires_on", r.expiresOn.toJson)] ++
    Json.memberIfSome "extended_expires_on" UnixTime.toJson r.extendedExpiresOn ++
    Json.memberIfSome "refresh_on" UnixTime.toJson r.refreshOn
  extra r := r.extra
  withExtra r extra := { r with extra }
  key r := CacheKey.accessToken r.homeAccountId r.environment r.clientId r.realm r.target.text

/-- Whether the token is still valid at a time. -/
def validAt (r : AccessTokenRecord) (t : UnixTime) : Bool := t.before r.expiresOn

/-- Whether the token should be refreshed at a time. -/
def refreshDueAt (r : AccessTokenRecord) (t : UnixTime) : Bool :=
  r.refreshOn.elim false fun due => !t.before due

end AccessTokenRecord

/-! ### Refresh tokens -/

/-- A cached refresh token. -/
structure RefreshTokenRecord where
  homeAccountId : String
  /-- The host that issued the token. -/
  environment : String
  credentialType : CredentialType
  /-- The client that the token was issued to. -/
  clientId : String
  /-- The token. -/
  secret : String
  /-- The family of clients that share the token. -/
  familyId : Option String
  /-- The unrecognized fields. -/
  extra : Json.Members

namespace RefreshTokenRecord

instance : CacheRecord RefreshTokenRecord where
  recognized := ["home_account_id", "environment", "credential_type", "client_id", "secret",
    "family_id"]
  ofFields? depth fields extra := do
    return {
      homeAccountId := ← fields.required? "home_account_id" ParseTree.text?
      environment := ← fields.required? "environment" ParseTree.text?
      credentialType := ← fields.required? "credential_type" (CredentialType.read? depth)
      clientId := ← fields.required? "client_id" ParseTree.text?
      secret := ← fields.required? "secret" ParseTree.text?
      familyId := ← fields.optional? "family_id" ParseTree.text?
      extra }
  fields r :=
    [("home_account_id", .string r.homeAccountId), ("environment", .string r.environment),
      ("credential_type", .string r.credentialType.name), ("client_id", .string r.clientId),
      ("secret", .string r.secret)] ++
    Json.memberIfSome "family_id" .string r.familyId
  extra r := r.extra
  withExtra r extra := { r with extra }
  key r := CacheKey.refreshToken r.homeAccountId r.environment r.clientId r.familyId

/-- The family of the token, unless it is blank. -/
def family? (r : RefreshTokenRecord) : Option String := CacheKey.nonEmpty? r.familyId

end RefreshTokenRecord

/-! ### ID tokens -/

/-- A cached ID token. -/
structure IdTokenRecord where
  homeAccountId : String
  /-- The host that issued the token. -/
  environment : String
  credentialType : CredentialType
  /-- The client that the token was issued to. -/
  clientId : String
  /-- The token as it was received. -/
  secret : String
  /-- The tenant in which the token was issued. -/
  realm : String
  /-- The unrecognized fields. -/
  extra : Json.Members

namespace IdTokenRecord

instance : CacheRecord IdTokenRecord where
  recognized := ["home_account_id", "environment", "credential_type", "client_id", "secret",
    "realm"]
  ofFields? depth fields extra := do
    return {
      homeAccountId := ← fields.required? "home_account_id" ParseTree.text?
      environment := ← fields.required? "environment" ParseTree.text?
      credentialType := ← fields.required? "credential_type" (CredentialType.read? depth)
      clientId := ← fields.required? "client_id" ParseTree.text?
      secret := ← fields.required? "secret" ParseTree.text?
      realm := ← fields.defaulted? "realm" "" ParseTree.text?
      extra }
  fields r :=
    [("home_account_id", .string r.homeAccountId), ("environment", .string r.environment),
      ("credential_type", .string r.credentialType.name), ("client_id", .string r.clientId),
      ("secret", .string r.secret), ("realm", .string r.realm)]
  extra r := r.extra
  withExtra r extra := { r with extra }
  key r := CacheKey.idToken r.homeAccountId r.environment r.clientId r.realm

end IdTokenRecord

/-! ### Accounts -/

/-- A cached account, as seen in one tenant. -/
structure AccountRecord where
  homeAccountId : String
  /-- The host through which the account signed in. -/
  environment : String
  /-- The tenant that this record describes. -/
  realm : String
  /-- The identifier of the account in that tenant. -/
  localAccountId : Option String
  /-- The sign-in name. -/
  username : Option String
  /-- The display name. -/
  name : Option String
  /-- The kind of the authority that issued the account's tokens. -/
  authorityType : Option String
  /-- What the service said about the client, as received. -/
  clientInfo : Option String
  /-- The unrecognized fields. -/
  extra : Json.Members

namespace AccountRecord

instance : CacheRecord AccountRecord where
  recognized := ["home_account_id", "environment", "realm", "local_account_id", "username",
    "name", "authority_type", "client_info"]
  ofFields? _ fields extra := do
    return {
      homeAccountId := ← fields.required? "home_account_id" ParseTree.text?
      environment := ← fields.required? "environment" ParseTree.text?
      realm := ← fields.defaulted? "realm" "" ParseTree.text?
      localAccountId := ← fields.optional? "local_account_id" ParseTree.text?
      username := ← fields.optional? "username" ParseTree.text?
      name := ← fields.optional? "name" ParseTree.text?
      authorityType := ← fields.optional? "authority_type" ParseTree.text?
      clientInfo := ← fields.optional? "client_info" ParseTree.text?
      extra }
  fields r :=
    [("home_account_id", .string r.homeAccountId), ("environment", .string r.environment),
      ("realm", .string r.realm)] ++
    Json.memberIfSome "local_account_id" .string r.localAccountId ++
    Json.memberIfSome "username" .string r.username ++
    Json.memberIfSome "name" .string r.name ++
    Json.memberIfSome "authority_type" .string r.authorityType ++
    Json.memberIfSome "client_info" .string r.clientInfo
  extra r := r.extra
  withExtra r extra := { r with extra }
  key r := CacheKey.account r.homeAccountId r.environment r.realm

end AccountRecord

/-! ### Applications -/

/-- What is known about an application. -/
structure AppMetadataRecord where
  /-- The application. -/
  clientId : String
  /-- The host from which this was learned. -/
  environment : String
  /-- The family of clients that the application belongs to. -/
  familyId : Option String
  /-- The unrecognized fields. -/
  extra : Json.Members

namespace AppMetadataRecord

instance : CacheRecord AppMetadataRecord where
  recognized := ["client_id", "environment", "family_id"]
  ofFields? _ fields extra := do
    return {
      clientId := ← fields.required? "client_id" ParseTree.text?
      environment := ← fields.required? "environment" ParseTree.text?
      familyId := ← fields.optional? "family_id" ParseTree.text?
      extra }
  fields r :=
    [("client_id", .string r.clientId), ("environment", .string r.environment)] ++
    Json.memberIfSome "family_id" .string r.familyId
  extra r := r.extra
  withExtra r extra := { r with extra }
  key r := CacheKey.appMetadata r.environment r.clientId

end AppMetadataRecord

end SilentAuth
