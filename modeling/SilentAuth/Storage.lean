import SilentAuth.Cache.TokenCache
import SilentAuth.Error
import SilentAuth.Text.Utf8

/-!
# Where a cache is persisted

Applications can share one persisted text. Each of them loads it before an access to its cache, and
stores the new text after an access that changed the cache. Loading replaces the cache in memory
only if the text is a cache document; storing hands the document out before the text is written.
-/

namespace SilentAuth

/-- What is found at the place of a persisted cache. -/
inductive Persisted where
  /-- Nothing was persisted so far. -/
  | nothing
  | text (s : String)
  /-- There is something, but it cannot be read as text. -/
  | unreadable
deriving DecidableEq

/-- What a file with these bytes says. -/
def Persisted.ofBytes (bytes : List UInt8) : Persisted :=
  (Utf8.decode? bytes).elim .unreadable .text

/-- The text that is persisted. -/
def Persisted.text? : Persisted → Option String
  | .text s => some s
  | .nothing | .unreadable => none

/-- Why an access to a storage fails. -/
inductive StorageFault where
  /-- An error of this library; it keeps its kind. -/
  | known (error : Error)
  /-- Any other error. -/
  | foreign
deriving DecidableEq

/-- The error that an application reports. -/
def StorageFault.toError : StorageFault → Error
  | .known error => error
  | .foreign => .storage

/-- A place where a cache is persisted. -/
structure Storage where
  content : Persisted
  /-- Whether the text can be replaced. -/
  writable : Bool
  /-- Why loading fails, if it does. -/
  loadFault : Option StorageFault
  /-- Why storing fails, if it does. -/
  storeFault : Option StorageFault
deriving DecidableEq

namespace Storage

/-- A storage without faults. -/
def holding (content : Persisted) : Storage := ⟨content, true, none, none⟩

/-- A storage that can be neither read nor written. -/
def inaccessible : Storage := ⟨.unreadable, false, none, none⟩

/-- The storage after someone put `content` there, if that is possible. -/
def overwrite (s : Storage) (content : Persisted) : Storage :=
  if s.writable then { s with content } else s

/-- The cache `c` brought up to date with what is persisted. -/
def load (s : Storage) (c : TokenCache) : Except Error TokenCache :=
  match s.loadFault with
  | some fault => .error fault.toError
  | none =>
    match s.content with
    | .nothing => .ok c
    | .text t => (TokenCache.load? t).elim (.error .malformedCacheData) .ok
    | .unreadable => .error .storage

/-- Persists a cache if it was changed: the error if that fails, and the storage and the cache
afterwards. -/
def store (s : Storage) (c : TokenCache) : Except Error Unit × Storage × TokenCache :=
  match s.storeFault with
  | some fault => (.error fault.toError, s, c)
  | none =>
    if !c.changed then (.ok (), s, c)
    else if s.writable then (.ok (), { s with content := .text c.save.1 }, c.save.2)
    else (.error .storage, s, c.save.2)

end Storage

end SilentAuth
