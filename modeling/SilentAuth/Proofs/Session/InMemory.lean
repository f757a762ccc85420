import SilentAuth.Proofs.Session.Reopening
import SilentAuth.Proofs.Session.Triples

/-!
# Storages in memory

A storage in memory has no faults and takes every text. So an access to the cache fails only if the
persisted text cannot be loaded, and then it is as if it had not begun. If it succeeds, what was
changed is persisted, and nothing is if nothing was changed: in between, the cache in memory is never
marked as changed.

* `Session.Tidy`: a session whose storage, if it has one, is in memory and holds all changes.
* `Session.Tidy.withCache_cases`: all that an access to the cache of such a session can do;
  `Session.Tidy.withCache`: the session stays tidy.
* `Session.OnlyRead`: what becomes of a session if its cache is only read.
* `Action.withCache_of_malformed`: an access where the persisted text cannot be loaded.
-/

namespace SilentAuth

open Session

/-! ### Storing in memory -/

namespace Storage

/-- A storage in memory: it has no faults, and its text can be replaced. -/
def InMemory (storage : Storage) : Prop := ∃ content, storage = .holding content

/-- A storage in memory takes a cache that was changed, and leaves everything as it is else. -/
theorem InMemory.store_eq {storage : Storage} (h : storage.InMemory) (c : TokenCache) :
    storage.store c = if c.changed = true then (.ok (), .holding (.text c.save.1), c.save.2)
      else (.ok (), storage, c) := by
  obtain ⟨content, rfl⟩ := h
  cases hchanged : c.changed <;> simp [store, holding, hchanged]

/-- A storage in memory stays one when someone overwrites it. -/
theorem InMemory.overwrite {storage : Storage} (h : storage.InMemory) (content : Persisted) :
    (storage.overwrite content).InMemory := by
  obtain ⟨present, rfl⟩ := h
  exact ⟨content, rfl⟩

end Storage

namespace Session

variable {s t u : Session} {c : TokenCache} {e : Error}

/-- A session whose storage, if it has one, is in memory, and whose cache has no changes then that
are not persisted. -/
structure Tidy (s : Session) : Prop where
  inMemory : ∀ storage, s.storage = some storage → storage.InMemory
  clean : s.storage.isSome = true → s.cache.changed = false

/-- A session is tidy whatever is noted, found out about hosts, or asked. -/
theorem Tidy.of_same (h : s.Tidy) (hstorage : t.storage = s.storage) (hcache : t.cache = s.cache) :
    t.Tidy where
  inMemory := hstorage ▸ h.inMemory
  clean := by
    rw [hstorage, hcache]
    exact h.clean

/-! ### What is persisted -/

/-- A text is persisted that says a cache. -/
def Persists (s : Session) (c : TokenCache) : Prop :=
  ∃ storage text, s.storage = some storage ∧ storage.content = .text text ∧
    TokenCache.load? text = some c

/-- A text is persisted that cannot be loaded. -/
def Malformed (s : Session) : Prop :=
  ∃ storage text, s.storage = some storage ∧ storage.content = .text text ∧
    TokenCache.load? text = none

/-- The next access works on the cache in memory, or on what is persisted. -/
theorem eq_or_persists_of_opened (h : s.opened = .ok c) : c = s.cache ∨ s.Persists c := by
  obtain ⟨_, hc⟩ | ⟨storage, hstorage, _, ⟨_, hc⟩ | ⟨text, hcontent, hload⟩⟩ :=
    opened_eq_ok_iff.1 h
  · exact .inl hc
  · exact .inl hc
  · exact .inr ⟨storage, text, hstorage, hcontent, hload⟩

/-- The next access finds no changes that are not persisted. -/
theorem Tidy.changed_of_opened (h : s.Tidy) (hopened : s.opened = .ok c)
    (hstorage : s.storage.isSome = true) : c.changed = false := by
  rcases eq_or_persists_of_opened hopened with rfl | ⟨_, text, _, _, hload⟩
  · exact h.clean hstorage
  · obtain ⟨_, _, rfl⟩ := Option.map_eq_some_iff.1 hload
    rfl

/-- With a storage in memory, it is a malformed text that cannot be loaded. -/
theorem Tidy.opened_eq_malformed_iff (h : s.Tidy) :
    s.opened = .error .malformedCacheData ↔ s.Malformed := by
  unfold opened Malformed
  cases hs : s.storage with
  | none => simp
  | some storage =>
    obtain ⟨content, rfl⟩ := h.inMemory storage hs
    cases content with
    | nothing => simp [Storage.load, Storage.holding]
    | unreadable => simp [Storage.load, Storage.holding]
    | text text =>
      cases hload : TokenCache.load? text <;> simp [Storage.load, Storage.holding, hload]

end Session

/-! ### Accesses -/

namespace Action

variable {α : Type} {clientId : String} {account : Option Account}
  {access : TokenCache → α × TokenCache} {services : Services} {s t : Session}
  {result : Except Error α}

/-- An access that cannot load what is persisted does not take place, and only its beginning is
noted. -/
theorem withCache_of_opened_error {e : Error} (h : s.opened = .error e) :
    withCache clientId account access services s = (.error e, s.note .before clientId account) := by
  have hload : (s.note .before clientId account).load =
      (.error e, s.note .before clientId account) := by
    rw [← note_opened .before clientId account s] at h
    unfold opened at h
    unfold Session.load
    cases hs : (s.note .before clientId account).storage with
    | none =>
      rw [hs] at h
      cases h
    | some storage =>
      rw [hs] at h
      dsimp only at h ⊢
      rw [h]
  exact bind_of_eq_error hload

/-- Where the persisted text cannot be loaded, no access takes place, whatever it would do. -/
theorem withCache_of_malformed (hs : s.Tidy) (h : s.Malformed) :
    withCache clientId account access services s =
      (.error .malformedCacheData, s.note .before clientId account) :=
  withCache_of_opened_error (hs.opened_eq_malformed_iff.2 h)

end Action

namespace Session

variable {α : Type} {clientId : String} {account : Option Account}
  {access : TokenCache → α × TokenCache} {services : Services} {s t u : Session}
  {result : Except Error α}

/-- All that an access to the cache of a tidy session can do: what is persisted cannot be loaded, and
only the beginning of the access is noted, or the access succeeds. -/
theorem Tidy.withCache_cases (hs : s.Tidy)
    (h : Action.withCache clientId account access services s = (result, t)) :
    (∃ e, s.opened = .error e ∧ result = .error e ∧ t = s.note .before clientId account) ∨
      ∃ c, s.opened = .ok c ∧ result = .ok (access c).1 ∧
        Stored { s with cache := (access c).2 } t := by
  cases hopened : s.opened with
  | error e =>
    rw [Action.withCache_of_opened_error hopened] at h
    cases h
    exact .inl ⟨e, rfl, rfl, rfl⟩
  | ok c =>
    cases result with
    | error e =>
      rcases Action.withCache_eq_error h with hfailed | ⟨storage, _, hstorage, _, hstore⟩
      · cases hfailed.symm.trans hopened
      · rw [(hs.inMemory storage hstorage).store_eq] at hstore
        split at hstore <;> cases hstore
    | ok v =>
      obtain ⟨c', hopened', rfl, hstored, _⟩ := Action.withCache_eq_ok h
      obtain rfl : c' = c := Except.ok.inj (hopened'.symm.trans hopened)
      exact .inr ⟨c', rfl, rfl, hstored⟩

/-- An access to the cache fails for a malformed text exactly where one is persisted. -/
theorem Tidy.withCache_eq_malformed (hs : s.Tidy)
    (h : Action.withCache clientId account access services s = (.error .malformedCacheData, t)) :
    s.Malformed := by
  rcases hs.withCache_cases h with ⟨e, hopened, herror, _⟩ | ⟨_, _, hok, _⟩
  · cases herror
    exact hs.opened_eq_malformed_iff.1 hopened
  · cases hok

/-- Storing a cache in memory leaves a tidy session. -/
theorem Tidy.of_stored {c : TokenCache} (hs : s.Tidy) (h : Stored { s with cache := c } t) :
    t.Tidy := by
  cases hstorage : s.storage with
  | none =>
    obtain ⟨hnone, _⟩ := h.without hstorage
    constructor
    · intro storage hsome
      rw [hnone] at hsome
      cases hsome
    · intro hsome
      rw [hnone] at hsome
      cases hsome
  | some storage =>
    obtain ⟨storage', hstore, ht⟩ := h.within storage hstorage
    rw [(hs.inMemory storage hstorage).store_eq] at hstore
    have hend : storage'.InMemory ∧ t.cache.changed = false := by
      split at hstore
      · obtain ⟨_, rfl, hcache⟩ := by simpa only [Prod.mk.injEq] using hstore
        exact ⟨⟨_, rfl⟩, hcache ▸ rfl⟩
      · rename_i hunchanged
        obtain ⟨_, rfl, hcache⟩ := by simpa only [Prod.mk.injEq] using hstore
        exact ⟨hs.inMemory storage hstorage, hcache ▸ by simpa using hunchanged⟩
    refine ⟨?_, fun _ => hend.2⟩
    intro other hother
    cases ht.symm.trans hother
    exact hend.1

/-- Accesses to the cache leave a tidy session tidy. -/
theorem Tidy.withCache (hs : s.Tidy)
    (h : Action.withCache clientId account access services s = (result, t)) : t.Tidy := by
  rcases hs.withCache_cases h with ⟨_, _, _, rfl⟩ | ⟨_, _, _, hstored⟩
  · exact hs.of_same (note_storage _ _ _ _) (note_cache _ _ _ _)
  · exact hs.of_stored hstored

/-! ### Reading only -/

/-- What becomes of a session if its cache is only read: what is persisted stays as it is, and the
cache in memory is the one that was there, or the one that is persisted. -/
structure OnlyRead (s t : Session) : Prop where
  storage : t.storage = s.storage
  cache : t.cache = s.cache ∨ s.Persists t.cache

namespace OnlyRead

/-- A session with the same storage and the same cache was only read. -/
theorem of_same (hstorage : t.storage = s.storage) (hcache : t.cache = s.cache) : s.OnlyRead t :=
  ⟨hstorage, .inl hcache⟩

/-- One read after another. -/
theorem trans (h : s.OnlyRead t) (h' : t.OnlyRead u) : s.OnlyRead u where
  storage := h'.storage.trans h.storage
  cache := by
    rcases h'.cache with hcache | ⟨storage, text, hstorage, hpersists⟩
    · rw [hcache]
      exact h.cache
    · exact .inr ⟨storage, text, h.storage ▸ hstorage, hpersists⟩

end OnlyRead

/-- Reading the cache of a tidy session persists nothing. -/
theorem Tidy.onlyRead_of_reading {read : Store → α} (hs : s.Tidy)
    (h : Action.reading clientId account read services s = (result, t)) : s.OnlyRead t := by
  rcases hs.withCache_cases h with ⟨_, _, _, rfl⟩ | ⟨c, hopened, _, hstored⟩
  · exact .of_same (note_storage _ _ _ _) (note_cache _ _ _ _)
  · cases hstorage : s.storage with
    | none =>
      obtain ⟨hnone, hcache⟩ := hstored.without hstorage
      refine ⟨hnone.trans hstorage.symm, ?_⟩
      rw [hcache]
      exact eq_or_persists_of_opened hopened
    | some storage =>
      obtain ⟨storage', hstore, ht⟩ := hstored.within storage hstorage
      have hclean : c.changed = false := hs.changed_of_opened hopened (by rw [hstorage]; rfl)
      rw [(hs.inMemory storage hstorage).store_eq, if_neg (by simp [hclean])] at hstore
      obtain ⟨_, rfl, hcache⟩ := by simpa only [Prod.mk.injEq] using hstore
      refine ⟨ht.trans hstorage.symm, ?_⟩
      rw [← hcache]
      exact eq_or_persists_of_opened hopened

end Session

end SilentAuth
