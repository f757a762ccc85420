import SilentAuth.Cache.Document

/-!
# The token cache of an application

A token cache holds a store in memory. It remembers the document it last loaded or saved: saving
merges the store into that document, so what the store does not touch is kept, and what was removed
from the store is removed. It also knows whether the store was handed out for changes since then.
-/

namespace SilentAuth

/-- A store in memory, with what is known about its persisted form. -/
structure TokenCache where
  /-- The credentials in memory. -/
  store : Store
  /-- The document that was last loaded or saved. -/
  baseline : Option Store
  /-- Whether the store may differ from the baseline. -/
  changed : Bool

namespace TokenCache

/-- A cache that holds nothing and was never loaded. -/
def new : TokenCache := ⟨.empty, none, false⟩

instance : Inhabited TokenCache := ⟨new⟩

/-- The store that a text says; a blank text says the empty store. -/
def parse? (text : String) : Option Store := if allBlank text then some .empty else Store.read? text

/-- The cache just loaded from a text. -/
def load? (text : String) : Option TokenCache := (parse? text).map fun s => ⟨s, some s, false⟩

/-- The document to persist. -/
def document (c : TokenCache) : Store := c.baseline.elim c.store (Store.merge · c.store)

/-- The text to persist, and the cache after it was handed out. -/
def save (c : TokenCache) : String × TokenCache :=
  (c.document.text, ⟨c.document, some c.document, false⟩)

/-- Hands out the store for changes. -/
def modify (c : TokenCache) (change : Store → Store) : TokenCache :=
  { c with store := change c.store, changed := true }

end TokenCache

end SilentAuth
