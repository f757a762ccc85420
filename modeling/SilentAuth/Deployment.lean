import SilentAuth.Application

/-!
# Applications that share

In a deployment several applications share a clock, a map of hosts, a persisted cache and the
journal. Each has a cache of its own in memory, and may have a map of hosts of its own.
-/

namespace SilentAuth

/-- An application in a deployment. -/
structure Member where
  app : Application
  cache : TokenCache
  /-- The map of hosts, if it is not the shared one. -/
  ownDiscovery : Option DiscoveryCache

/-- Applications and what they share. -/
structure Deployment where
  members : List Member
  discovery : DiscoveryCache
  now : UnixTime
  storage : Option Storage
  journal : Journal

namespace Deployment

/-- The map of hosts that an application uses. -/
def discoveryFor (d : Deployment) (m : Member) : DiscoveryCache := m.ownDiscovery.getD d.discovery

/-- The state on which an application works. -/
def sessionOf (d : Deployment) (m : Member) : Session :=
  ⟨m.cache, d.discoveryFor m, d.now, d.storage, d.journal⟩

/-- The deployment after the application at an index has worked on its state. -/
def afterSession (d : Deployment) (index : Nat) (m : Member) (s : Session) : Deployment where
  members := d.members.set index
    { m with cache := s.cache, ownDiscovery := m.ownDiscovery.map fun _ => s.discovery }
  discovery := if m.ownDiscovery.isSome then d.discovery else s.discovery
  now := s.now
  storage := s.storage
  journal := s.journal

/-- Lets the application at an index do something; nothing is done if there is none. -/
def run {α : Type} (d : Deployment) (services : Services) (index : Nat)
    (action : Application → Action α) : Option (Except Error α) × Deployment :=
  match d.members[index]? with
  | none => (none, d)
  | some m =>
    let (result, s) := action m.app services (d.sessionOf m)
    (some result, d.afterSession index m s)

/-- The deployment after someone put `content` into the storage. -/
def overwrite (d : Deployment) (content : Persisted) : Deployment :=
  { d with storage := d.storage.map (·.overwrite content) }

/-- The deployment in which loading and storing fail from now on for these reasons, if any. -/
def withFaults (d : Deployment) (load store : Option StorageFault) : Deployment :=
  { d with storage := d.storage.map fun s => { s with loadFault := load, storeFault := store } }

/-- An application of the deployment as it is shown to developers. -/
def describe (d : Deployment) (m : Member) : String :=
  m.app.description (d.discoveryFor m) d.storage.isSome

end Deployment

end SilentAuth
