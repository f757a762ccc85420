import SilentAuth.Error
import SilentAuth.Json.Decode

/-!
# Instance discovery

A cloud instance can be reached under several host names. What was cached under one of them has to
be found under the others, so the alias sets of hosts are kept in a map, and hosts that are not in
it are looked up at a discovery endpoint. A lookup has three steps, between which others may run:
looking into the map, asking the endpoint, and registering what it answers.
-/

namespace SilentAuth

/-- The hosts whose own discovery endpoint may be asked. -/
def trustedHosts : List String :=
  ["login.windows.net", "login.chinacloudapi.cn", "login-us.microsoftonline.com",
    "login.microsoftonline.de", "login.microsoftonline.com", "login.microsoftonline.us"]

/-- The host that is asked about all others. -/
def defaultTrustedHost : String := "login.microsoftonline.com"

/-- Whether the discovery endpoint of a host may be asked. -/
def isTrustedHost (host : String) : Bool := listed host trustedHosts

/-! ### Metadata -/

/-- What is known about a cloud instance. -/
structure InstanceMetadata where
  /-- The host for requests. -/
  preferredNetwork : String
  /-- The host under which credentials are recorded. -/
  preferredCache : String
  /-- The names of the instance. -/
  aliases : List String
deriving DecidableEq

namespace InstanceMetadata

/-- A host that has no other name. -/
def forSelf (host : String) : InstanceMetadata :=
  ⟨foldCase host, foldCase host, [foldCase host]⟩

/-- Whether a host is one of the names. -/
def hasAlias (m : InstanceMetadata) (host : String) : Bool := listed host m.aliases

/-- How metadata is written. -/
def shape : ClosedShape := ⟨["preferred_network", "preferred_cache", "aliases"], 2⟩

/-- Reads metadata. -/
def ofTree? (depth : Nat) (tree : ParseTree) : Option InstanceMetadata := do
  let fields : Fields ← shape.fields? depth tree
  return {
    preferredNetwork := ← fields.required? "preferred_network" ParseTree.text?
    preferredCache := ← fields.required? "preferred_cache" ParseTree.text?
    aliases := ← fields.defaulted? "aliases" []
      (ParseTree.list? (depth - 1) fun _ => ParseTree.text?) }

/-- Metadata as an object. -/
def toJson (m : InstanceMetadata) : Json :=
  .object [("preferred_network", .string m.preferredNetwork),
    ("preferred_cache", .string m.preferredCache), ("aliases", .array (m.aliases.map .string))]

end InstanceMetadata

/-- What a discovery endpoint answers. -/
structure DiscoveryResponse where
  /-- Where the configuration of the tenant is found, if the tenant is known. -/
  tenantEndpoint : Option String
  /-- The cloud instances. -/
  metadata : List InstanceMetadata
deriving DecidableEq

namespace DiscoveryResponse

/-- How an answer is written. -/
def shape : ClosedShape := ⟨["tenant_discovery_endpoint", "metadata"], 0⟩

/-- Reads an answer. -/
def ofTree? (depth : Nat) (tree : ParseTree) : Option DiscoveryResponse := do
  let fields : Fields ← shape.fields? depth tree
  return {
    tenantEndpoint := ← fields.optional? "tenant_discovery_endpoint" ParseTree.text?
    metadata := ← fields.defaulted? "metadata" []
      (ParseTree.list? (depth - 1) InstanceMetadata.ofTree?) }

/-- Reads an answer from its text. -/
def read? (text : String) : Option DiscoveryResponse := do
  ofTree? Json.depthLimit (← ParseTree.read? text)

/-- An answer as an object. -/
def toJson (r : DiscoveryResponse) : Json :=
  .object (Json.memberIfSome "tenant_discovery_endpoint" .string r.tenantEndpoint ++
    [("metadata", .array (r.metadata.map InstanceMetadata.toJson))])

end DiscoveryResponse

/-- A question to a discovery endpoint. -/
structure DiscoveryRequest where
  /-- The host that is asked. -/
  discoveryHost : String
  /-- The endpoint of the authority in question. -/
  authorizeEndpoint : Url
deriving DecidableEq

/-! ### The map of hosts -/

/-- What is known about hosts. -/
structure DiscoveryCache where
  /-- The metadata of each host, by its name in lower case. -/
  hosts : Dict InstanceMetadata
  /-- Whether there is an endpoint to ask. -/
  hasSource : Bool
  /-- Whether everything was given in advance. -/
  seeded : Bool

namespace DiscoveryCache

/-- A map that is filled by asking. -/
def asking : DiscoveryCache := ⟨.empty, true, false⟩

/-- A map for which nobody is asked; all hosts have one name. -/
def offline : DiscoveryCache := ⟨.empty, false, false⟩

/-- What is known about a host. -/
def cached? (d : DiscoveryCache) (host : String) : Option InstanceMetadata :=
  d.hosts.find? (foldCase host)

/-- The names of a host; a host that is not known has only its own. -/
def aliasesFor (d : DiscoveryCache) (host : String) : List String :=
  (d.cached? host).elim [foldCase host] InstanceMetadata.aliases

/-- Registers metadata under all names of its instance. -/
def register (d : DiscoveryCache) (m : InstanceMetadata) : DiscoveryCache :=
  { d with hosts := m.aliases.foldl (fun hosts name => hosts.insert (foldCase name) m) d.hosts }

/-- Registers a list of metadata, in order. -/
def registerAll (d : DiscoveryCache) (metadata : List InstanceMetadata) : DiscoveryCache :=
  metadata.foldl register d

/-- A map that was given in advance, for which nobody is asked. -/
def ofMetadata (metadata : List InstanceMetadata) : DiscoveryCache :=
  registerAll ⟨.empty, false, true⟩ metadata

/-- A map given in advance as the text of an answer. -/
def ofText? (text : String) : Option DiscoveryCache :=
  (DiscoveryResponse.read? text).map fun r => ofMetadata r.metadata

/-- How a lookup begins. -/
inductive Inquiry where
  /-- The host is known. -/
  | known (m : InstanceMetadata)
  /-- Nobody is asked, and the host has only its own name. -/
  | alone
  /-- The endpoint has to be asked. -/
  | ask (request : DiscoveryRequest)

/-- Looks a host up in the map. Only hosts of directories are asked about. -/
def inquire (d : DiscoveryCache) (a : Authority) : Inquiry :=
  match d.cached? a.host with
  | some m => .known m
  | none =>
    if d.hasSource && a.kind == .aad && !d.seeded then
      .ask ⟨if isTrustedHost a.host then a.host else defaultTrustedHost, a.authorizeEndpoint⟩
    else .alone

/-- What an answer, or none, means for a host: the metadata to register in any case, and the
metadata of the host or the reason why the endpoint does not vouch for it. Of several entries that
name the host the last one counts. -/
def judge (host : String) (validate : Bool) (answer : Option DiscoveryResponse) :
    List InstanceMetadata × Except DiscoveryFailure InstanceMetadata :=
  match answer with
  | none => ([], .error .request)
  | some r =>
    if validate && r.tenantEndpoint.isNone then ([], .error .missingTenantEndpoint)
    else
      (r.metadata,
        ((r.metadata.filter (·.hasAlias host)).getLast?).elim (.error .unknownHost) .ok)

/-- Ends a lookup when the answer is in: registers what it tells. A host that the endpoint does not
vouch for is an error if hosts have to be validated, and else has only its own name. -/
def conclude (d : DiscoveryCache) (host : String) (validate : Bool)
    (answer : Option DiscoveryResponse) : Except Error InstanceMetadata × DiscoveryCache :=
  let (registered, verdict) := judge host validate answer
  let d := d.registerAll registered
  match verdict with
  | .ok m => (.ok m, d)
  | .error failure =>
    if validate then (.error (.authorityNotTrusted host (some failure)), d)
    else (.ok (.forSelf host), d.register (.forSelf host))

/-- A whole lookup, given the answer that the endpoint gives if it is asked. -/
def resolve (d : DiscoveryCache) (a : Authority) (validate : Bool)
    (answer : Option DiscoveryResponse) : Except Error InstanceMetadata × DiscoveryCache :=
  match d.inquire a with
  | .known m => (.ok m, d)
  | .alone => (.ok (.forSelf a.host), d.register (.forSelf a.host))
  | .ask _ => d.conclude a.host validate answer

/-- Whether a flag is set, as it is shown to developers. -/
def flagText (b : Bool) : String := if b then "true" else "false"

/-- The map as it is shown to developers. -/
def description (d : DiscoveryCache) : String :=
  "DiscoveryCache \x7b hosts: " ++ Numeral.write d.hosts.size ++ ", has_source: " ++
    flagText d.hasSource ++ ", seeded: " ++ flagText d.seeded ++ " \x7d"

end DiscoveryCache

end SilentAuth
