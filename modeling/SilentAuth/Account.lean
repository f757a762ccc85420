import SilentAuth.Cache.Record
import SilentAuth.Text.Base64
import SilentAuth.Text.Split

/-!
# Accounts

An account is a handle on a user who signed in: applications get it from the cache and hand it back.
Who a user is, the service says in two places of a response: in the client info, which tells the
home account, and in the claims of the ID token, which tell names and the tenant of the sign-in.
What cannot be read there counts as not said.
-/

namespace SilentAuth

/-- A signed-in account. -/
structure Account where
  /-- The identifier of the account in its home tenant. -/
  homeAccountId : String
  /-- The host through which the account signed in. -/
  environment : String
  /-- The tenant that the handle refers to. -/
  tenantId : String
  /-- The sign-in name. -/
  username : Option String
  /-- The display name. -/
  name : Option String
deriving DecidableEq

namespace Account

/-- The handle on the account that a record describes. -/
def ofRecord (r : AccountRecord) : Account where
  homeAccountId := r.homeAccountId
  environment := r.environment
  tenantId := r.realm
  username := r.username
  name := r.name

/-- How an account is written: all fields have to be given. -/
def shape : ClosedShape :=
  ⟨["home_account_id", "environment", "tenant_id", "username", "name"], 5⟩

/-- Reads an account. -/
def ofTree? (depth : Nat) (tree : ParseTree) : Option Account := do
  let fields : Fields ← shape.fields? depth tree
  return {
    homeAccountId := ← fields.required? "home_account_id" ParseTree.text?
    environment := ← fields.required? "environment" ParseTree.text?
    tenantId := ← fields.required? "tenant_id" ParseTree.text?
    username := ← fields.optional? "username" ParseTree.text?
    name := ← fields.optional? "name" ParseTree.text? }

/-- Reads an account from its text. -/
def read? (text : String) : Option Account := do ofTree? Json.depthLimit (← ParseTree.read? text)

/-- An account as an object. -/
def toJson (a : Account) : Json :=
  .object [("home_account_id", .string a.homeAccountId), ("environment", .string a.environment),
    ("tenant_id", .string a.tenantId), ("username", Json.ofText? a.username),
    ("name", Json.ofText? a.name)]

/-- The text of an account. -/
def text (a : Account) : String := a.toJson.text

end Account

/-- Reads what a text in Base64 says as JSON. -/
def readEncoded? {α : Type} (ofTree? : Nat → ParseTree → Option α) (s : String) : Option α := do
  readBytes? ofTree? (← Base64.decodePadded? s)

/-- What the service says about the client in a response. -/
structure ClientInfo where
  /-- The user in the home tenant. -/
  uid : Option String
  /-- The home tenant. -/
  utid : Option String

namespace ClientInfo

/-- The client info that says nothing. -/
def silent : ClientInfo := ⟨none, none⟩

/-- How client info is written. -/
def shape : ClosedShape := ⟨["uid", "utid"], 0⟩

/-- Reads client info. -/
def ofTree? (depth : Nat) (tree : ParseTree) : Option ClientInfo := do
  let fields : Fields ← shape.fields? depth tree
  return ⟨← fields.optional? "uid" ParseTree.text?, ← fields.optional? "utid" ParseTree.text?⟩

/-- The client info that a response carries. -/
def ofResponse (encoded : Option String) : ClientInfo :=
  (encoded.bind (readEncoded? ofTree?)).getD silent

/-- The home account, if both its parts are said. -/
def homeAccountId? (info : ClientInfo) : Option String :=
  match info.uid, info.utid with
  | some uid, some utid => some (uid ++ "." ++ utid)
  | _, _ => none

end ClientInfo

/-- The claims of an ID token that tell who signed in. -/
structure IdClaims where
  oid : Option String
  sub : Option String
  tid : Option String
  preferredUsername : Option String
  upn : Option String
  email : Option String
  name : Option String

namespace IdClaims

/-- The claims that say nothing. -/
def silent : IdClaims := ⟨none, none, none, none, none, none, none⟩

/-- How the claims are written. -/
def shape : ClosedShape :=
  ⟨["oid", "sub", "tid", "preferred_username", "upn", "email", "name"], 0⟩

/-- Reads claims. -/
def ofTree? (depth : Nat) (tree : ParseTree) : Option IdClaims := do
  let fields : Fields ← shape.fields? depth tree
  return {
    oid := ← fields.optional? "oid" ParseTree.text?
    sub := ← fields.optional? "sub" ParseTree.text?
    tid := ← fields.optional? "tid" ParseTree.text?
    preferredUsername := ← fields.optional? "preferred_username" ParseTree.text?
    upn := ← fields.optional? "upn" ParseTree.text?
    email := ← fields.optional? "email" ParseTree.text?
    name := ← fields.optional? "name" ParseTree.text? }

/-- The claims in an ID token: they stand between its first two dots. The token comes straight from
the service, so its signature is not checked. -/
def ofToken (token : Option String) : IdClaims :=
  (do
    match splitAll (· = '.') (← token).toList with
    | _ :: payload :: _ => readEncoded? ofTree? (String.ofList payload)
    | _ => none).getD silent

/-- The identifier of the account in the tenant of the sign-in. -/
def localAccountId? (claims : IdClaims) : Option String := claims.oid.or claims.sub

/-- The sign-in name. -/
def username? (claims : IdClaims) : Option String :=
  (claims.preferredUsername.or claims.upn).or claims.email

end IdClaims

end SilentAuth
