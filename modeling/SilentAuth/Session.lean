import SilentAuth.Account
import SilentAuth.Discovery
import SilentAuth.Refresh
import SilentAuth.Storage

/-!
# Sessions

A session is the state of an application between two calls: its cache in memory, the map of hosts,
the clock and the persisted cache, and a journal of what was asked of others. An action works on a
session and may use two services, the discovery endpoint and the identity provider; while a refresh
token is redeemed, time passes and other processes may persist their caches. The services may answer
each call differently, so they are functions of the number of calls before.

Main statement: what it means that two actions in a row succeed.
-/

namespace SilentAuth

/-! ### Services -/

/-- What happens while a refresh token is redeemed. -/
structure Exchange where
  /-- What the identity provider answers. -/
  answer : Except ServiceError TokenResponse
  /-- What another process put into the storage meanwhile, if it did. -/
  persisted : Option Persisted
  /-- How much time passes. -/
  elapsed : Span

/-- The services that an application uses. -/
structure Services where
  /-- What the discovery endpoint answers after so many questions; nothing if it fails. -/
  discover : Nat → DiscoveryRequest → Option DiscoveryResponse
  /-- What happens while a refresh token is redeemed, after so many of them. -/
  exchange : Nat → RefreshRequest → Exchange

/-! ### The state of an application -/

/-- The moments at which the storage is accessed. -/
inductive Moment where
  | before
  | after
deriving DecidableEq

/-- The name of a moment. -/
def Moment.name : Moment → String
  | .before => "before"
  | .after => "after"

/-- An access to the storage, with what the cache looked like at that moment. -/
structure StorageAccess where
  moment : Moment
  clientId : String
  /-- The account for which the cache is accessed, if any. -/
  homeAccountId : Option String
  /-- Whether the cache was changed. -/
  changed : Bool
  /-- The number of account records in the cache. -/
  accountCount : Nat
deriving DecidableEq

/-- What was asked of others so far. -/
structure Journal where
  questions : List DiscoveryRequest
  exchanges : List RefreshRequest
  accesses : List StorageAccess

/-- The journal in which nothing is noted. -/
def Journal.empty : Journal := ⟨[], [], []⟩

/-- The state on which an application works. -/
structure Session where
  cache : TokenCache
  discovery : DiscoveryCache
  now : UnixTime
  storage : Option Storage
  journal : Journal

/-! ### Actions -/

/-- What an application does: it ends with a value or an error, in a new state. -/
def Action (α : Type) : Type := Services → Session → Except Error α × Session

namespace Action

variable {α β : Type}

/-- Does nothing but give a value. -/
protected def pure (a : α) : Action α := fun _ s => (.ok a, s)

/-- Goes on with the value of an action; an error ends everything. -/
protected def bind (x : Action α) (f : α → Action β) : Action β := fun services s =>
  match x services s with
  | (.ok a, s') => f a services s'
  | (.error e, s') => (.error e, s')

instance : Monad Action where
  pure := Action.pure
  bind := Action.bind

/-- Of two actions in a row, the second one takes place if the first one succeeds. -/
theorem bind_apply (x : Action α) (f : α → Action β) (services : Services) (s : Session) :
    (x >>= f) services s =
      match x services s with
      | (.ok a, s') => f a services s'
      | (.error e, s') => (.error e, s') := rfl

/-- Two actions in a row succeed if both do. -/
theorem bind_eq_ok_iff {x : Action α} {f : α → Action β} {services : Services} {s t : Session}
    {b : β} :
    (x >>= f) services s = (.ok b, t) ↔
      ∃ a s', x services s = (.ok a, s') ∧ f a services s' = (.ok b, t) := by
  rw [bind_apply]
  constructor
  · intro h
    split at h
    · rename_i a s' hx
      exact ⟨a, s', hx, h⟩
    · cases h
  · rintro ⟨a, s', hx, h⟩
    rw [hx]
    exact h

/-- Gives a value or an error that is known already. -/
def ofExcept (result : Except Error α) : Action α := fun _ s => (result, s)

/-- Looks at the state. -/
def view (f : Session → α) : Action α := fun _ s => (.ok (f s), s)

end Action

namespace Session

/-! ### Access to the cache -/

/-- Notes an access to the storage, if there is one. -/
def note (moment : Moment) (clientId : String) (account : Option Account) (s : Session) : Session :=
  if s.storage.isSome then
    { s with journal.accesses := s.journal.accesses ++
        [⟨moment, clientId, account.map Account.homeAccountId, s.cache.changed,
          s.cache.store.accounts.size⟩] }
  else s

/-- Brings the cache up to date with what is persisted. -/
def load (s : Session) : Except Error Unit × Session :=
  match s.storage with
  | none => (.ok (), s)
  | some storage =>
    match storage.load s.cache with
    | .ok cache => (.ok (), { s with cache })
    | .error e => (.error e, s)

/-- Persists the cache if it was changed. -/
def store (s : Session) : Except Error Unit × Session :=
  match s.storage with
  | none => (.ok (), s)
  | some storage =>
    let (result, storage, cache) := storage.store s.cache
    (result, { s with cache, storage := some storage })

end Session

namespace Action

variable {α : Type}

/-- Accesses the cache: what is persisted is loaded before and stored afterwards. The access takes
place only if loading succeeds, and its value is given only if storing does. -/
def withCache (clientId : String) (account : Option Account)
    (access : TokenCache → α × TokenCache) : Action α := do
  fun _ s => (s.note .before clientId account).load
  let value ← fun _ s => (.ok (access s.cache).1, { s with cache := (access s.cache).2 })
  fun _ s => (s.note .after clientId account).store
  return value

/-- Reads the store in memory. -/
def reading (clientId : String) (account : Option Account) (read : Store → α) : Action α :=
  withCache clientId account fun cache => (read cache.store, cache)

/-- Changes the store in memory, and gives what `result` says of the store before. -/
def changing (clientId : String) (account : Option Account) (result : Store → α)
    (change : Store → Store) : Action α :=
  withCache clientId account fun cache => (result cache.store, cache.modify change)

/-! ### Use of the services -/

/-- Finds out what is known about the host of an authority, and asks if nothing is. -/
def resolve (a : Authority) (validate : Bool) : Action InstanceMetadata := fun services s =>
  match s.discovery.inquire a with
  | .known m => (.ok m, s)
  | .alone =>
    (.ok (.forSelf a.host), { s with discovery := s.discovery.register (.forSelf a.host) })
  | .ask question =>
    let answer := services.discover s.journal.questions.length question
    let (result, discovery) := s.discovery.conclude a.host validate answer
    (result, { s with
      discovery
      journal.questions := s.journal.questions ++ [question] })

/-- Asks the identity provider to redeem a refresh token. -/
def exchange (request : RefreshRequest) : Action (Except ServiceError TokenResponse) :=
  fun services s =>
    let e := services.exchange s.journal.exchanges.length request
    (.ok e.answer, { s with
      now := s.now.ticked e.elapsed
      storage := s.storage.map fun storage => e.persisted.elim storage storage.overwrite
      journal.exchanges := s.journal.exchanges ++ [request] })

end Action

end SilentAuth
