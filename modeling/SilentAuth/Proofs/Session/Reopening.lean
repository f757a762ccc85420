import SilentAuth.Proofs.Cache.Keeping
import SilentAuth.Proofs.Session.Access

/-!
# What the next access works on

What an access to the cache leaves behind, the next one finds. Without a storage, and if nothing was
changed, that is the cache in memory as it is; else it is what the document says that was persisted.

* `Session.opened_eq_ok_iff`: what the next access works on.
* `Session.Stored.content_eq`: what is persisted once a changed cache was stored.
* `Session.Stored.exists_settled`: after an access that succeeded, the next one works on the store
  that is kept; `Session.Stored.exists_settled_of_saved`: so it does after a response was saved.
* `Action.withCache_of_opened`: when an access succeeds; `Action.reading_of_settled`: reading such a
  store does.
-/

namespace SilentAuth

namespace Session

/-! ### The cache that is opened -/

/-- A session whose cache comes from documents, so far as it may be the first to be persisted. -/
def Documented (s : Session) : Prop :=
  ∀ storage, s.storage = some storage → storage.content = .nothing → s.cache.Documented

/-- A session whose cache can be read again, so far as it may be the first to be persisted. -/
def Legible (s : Session) : Prop :=
  ∀ storage, s.storage = some storage → storage.content = .nothing → s.cache.Legible

variable {s t : Session} {c c' : TokenCache}

/-- What the next access works on: the cache in memory, or what is persisted if anything is. -/
theorem opened_eq_ok_iff : s.opened = .ok c ↔
    (s.storage = none ∧ c = s.cache) ∨ ∃ storage, s.storage = some storage ∧
      storage.loadFault = none ∧ ((storage.content = .nothing ∧ c = s.cache) ∨
        ∃ text, storage.content = .text text ∧ TokenCache.load? text = some c) := by
  unfold opened
  cases hs : s.storage with
  | none => simp [eq_comm]
  | some storage =>
    simp only [reduceCtorEq, false_and, Option.some.injEq, exists_eq_left', false_or]
    unfold Storage.load
    cases hfault : storage.loadFault with
    | some fault => simp
    | none =>
      cases hcontent : storage.content with
      | nothing => simp [eq_comm]
      | unreadable => simp
      | text text => cases hload : TokenCache.load? text <;> simp [hload]

/-- A storage from which a cache was opened does not fail, and holds nothing or the text of it. -/
theorem loaded_of_opened (h : s.opened = .ok c) {storage : Storage}
    (hs : s.storage = some storage) : storage.loadFault = none ∧
      ((storage.content = .nothing ∧ c = s.cache) ∨
        ∃ text, storage.content = .text text ∧ TokenCache.load? text = some c) := by
  rcases opened_eq_ok_iff.1 h with ⟨hnone, _⟩ | ⟨other, hsome, hloaded⟩
  · rw [hnone] at hs
    cases hs
  · cases hs.symm.trans hsome
    exact hloaded

/-- With a storage, the next access works on a cache from documents. -/
theorem Documented.opened (h : s.Documented) (hstorage : s.storage.isSome = true)
    (hopened : s.opened = .ok c) : c.Documented := by
  obtain ⟨storage, hsome⟩ := Option.isSome_iff_exists.1 hstorage
  obtain ⟨_, ⟨hnothing, rfl⟩ | ⟨_, _, hload⟩⟩ := loaded_of_opened hopened hsome
  · exact h storage hsome hnothing
  · exact TokenCache.documented_of_load? hload

/-- With a storage, the next access works on a cache that can be read again. -/
theorem Legible.opened (h : s.Legible) (hstorage : s.storage.isSome = true)
    (hopened : s.opened = .ok c) : c.Legible := by
  obtain ⟨storage, hsome⟩ := Option.isSome_iff_exists.1 hstorage
  obtain ⟨_, ⟨hnothing, rfl⟩ | ⟨_, _, hload⟩⟩ := loaded_of_opened hopened hsome
  · exact h storage hsome hnothing
  · exact (TokenCache.documented_of_load? hload).legible

end Session

/-- Storing that succeeds keeps the faults, persists the document if the cache was changed, and does
nothing otherwise. -/
theorem Storage.store_eq_ok {storage storage' : Storage} {c c' : TokenCache}
    (h : storage.store c = (.ok (), storage', c')) :
    storage.storeFault = none ∧ ((c.changed = false ∧ storage' = storage ∧ c' = c) ∨
      (c.changed = true ∧ storage' = { storage with content := .text c.save.1 } ∧
        c' = c.save.2)) := by
  unfold store at h
  cases hfault : storage.storeFault with
  | some fault => simp [hfault] at h
  | none =>
    refine ⟨rfl, ?_⟩
    cases hchanged : c.changed with
    | false =>
      simp only [hfault, hchanged, Bool.not_false, if_true, Prod.mk.injEq, true_and] at h
      exact .inl ⟨rfl, h.1.symm, h.2.symm⟩
    | true =>
      cases hwritable : storage.writable with
      | false => simp [hfault, hchanged, hwritable] at h
      | true =>
        simp only [hfault, hchanged, hwritable, Bool.not_true, Bool.false_eq_true, if_false,
          if_true, Prod.mk.injEq, true_and] at h
        exact .inr ⟨rfl, h.1.symm, h.2.symm⟩

namespace Session

variable {s t : Session} {c c' : TokenCache}

/-- Storing a cache from documents leaves one in memory. -/
theorem Stored.documented (hc : s.storage.isSome = true → c.Documented)
    (h : Stored { s with cache := c } t) (hstorage : s.storage.isSome = true) :
    t.cache.Documented := by
  obtain ⟨storage, hsome⟩ := Option.isSome_iff_exists.1 hstorage
  obtain ⟨storage', hstore, _⟩ := h.within storage hsome
  obtain ⟨_, ⟨_, _, hcache⟩ | ⟨_, _, hcache⟩⟩ := Storage.store_eq_ok hstore
  · rw [hcache]
    exact hc hstorage
  · rw [hcache]
    exact (hc hstorage).save

/-- After a changed cache was stored, its text is persisted. -/
theorem Stored.content_eq (h : Stored { s with cache := c } t) (hchanged : c.changed = true)
    {storage : Storage} (hstorage : t.storage = some storage) :
    storage.content = .text c.save.1 := by
  have hsome : s.storage.isSome = true := by
    rw [← h.isSome_storage, hstorage]
    rfl
  obtain ⟨before, hbefore⟩ := Option.isSome_iff_exists.1 hsome
  obtain ⟨after, hstore, hafter⟩ := h.within before hbefore
  cases hafter.symm.trans hstorage
  obtain ⟨_, ⟨hclean, _⟩ | ⟨_, rfl, _⟩⟩ := Storage.store_eq_ok hstore
  · cases hclean.symm.trans hchanged
  · rfl

/-! ### Settled sessions -/

/-- The next access works on a cache, and leaves everything as it is if it only reads. -/
structure Settled (s : Session) (c : TokenCache) : Prop where
  opened : s.opened = .ok c
  clean : ∀ storage, s.storage = some storage → storage.storeFault = none ∧ c.changed = false

/-- After an access that succeeded, the next one works on the store that is kept. -/
theorem Stored.exists_settled (hopened : s.opened = .ok c) (hc : c' = c ∨ c'.changed = true)
    (hfits : s.storage.isSome = true → c'.document.Fits)
    (h : Stored { s with cache := c' } t) :
    ∃ found, t.Settled found ∧ found.store = c'.kept s.storage.isSome := by
  cases hs : s.storage with
  | none =>
    obtain ⟨hnone, hcache⟩ := h.without hs
    refine ⟨c', ⟨opened_eq_ok_iff.2 (.inl ⟨hnone, hcache.symm⟩), ?_⟩, rfl⟩
    intro storage hsome
    rw [hnone] at hsome
    cases hsome
  | some storage =>
    obtain ⟨hloadFault, hcontent⟩ := loaded_of_opened hopened hs
    obtain ⟨storage', hwithin, ht⟩ := h.within storage hs
    have hstore : storage.store c' = (.ok (), storage', t.cache) := hwithin
    obtain ⟨hfault, ⟨hchanged, rfl, hcache⟩ | ⟨hchanged, rfl, hcache⟩⟩ := Storage.store_eq_ok hstore
    · -- nothing was changed, so the storage gives the same cache again
      obtain rfl : c' = c := hc.resolve_right (by simp [hchanged])
      refine ⟨c', ⟨opened_eq_ok_iff.2 (.inr ⟨storage', ht, hloadFault, ?_⟩), ?_⟩, ?_⟩
      · exact hcontent.imp_left fun hnothing => ⟨hnothing.1, hcache.symm⟩
      · intro storage hsome
        cases ht.symm.trans hsome
        exact ⟨hfault, hchanged⟩
      · simp [TokenCache.kept, hchanged]
    · have hload := TokenCache.load?_save (hfits (by rw [hs]; rfl))
      refine ⟨_, ⟨opened_eq_ok_iff.2 (.inr ⟨_, ht, hloadFault, .inr ⟨_, rfl, hload⟩⟩), ?_⟩, ?_⟩
      · intro other hsome
        cases ht.symm.trans hsome
        exact ⟨hfault, rfl⟩
      · simp [TokenCache.kept, hchanged]

/-- After a response was saved in a cache that can be read again if it is persisted, the next access
finds the store in which it was saved, as it is kept. -/
theorem Stored.exists_settled_of_saved {i : Issued} (hopened : s.opened = .ok c)
    (hc : s.storage.isSome = true → c.Legible)
    (h : Stored { s with cache := c.modify (·.saveResponse i) } t) :
    ∃ found, t.Settled found ∧
      found.store = (c.modify (·.saveResponse i)).kept s.storage.isSome := by
  apply h.exists_settled hopened (.inr rfl)
  intro hstorage
  have hlegible := hc hstorage
  exact TokenCache.fits_document (hlegible.fits.saveResponse i) hlegible.baseline

end Session

/-! ### Reading -/

namespace Session

variable {s : Session} {c : TokenCache}

/-- Loading succeeds where there is a cache to work on. -/
theorem load_of_opened (h : s.opened = .ok c) : s.load = (.ok (), { s with cache := c }) := by
  unfold opened at h
  unfold load
  cases hs : s.storage with
  | none =>
    simp only [hs, Except.ok.injEq] at h ⊢
    rw [← h, ← hs]
  | some storage =>
    simp only [hs] at h ⊢
    rw [h]

/-- Storing does nothing if nothing was changed. -/
theorem store_of_clean (h : ∀ storage, s.storage = some storage →
    storage.storeFault = none ∧ s.cache.changed = false) : s.store = (.ok (), s) := by
  unfold store
  cases hs : s.storage with
  | none => rfl
  | some storage =>
    obtain ⟨hfault, hchanged⟩ := h storage hs
    simp only [Storage.store, hfault, hchanged, Bool.not_false, if_true]
    rw [← hs]

end Session

namespace Action

open Session

variable {α : Type} {s t : Session} {c : TokenCache}

/-- An access works on the opened cache, and succeeds if the cache it leaves can be stored. -/
theorem withCache_of_opened {clientId : String} {account : Option Account}
    {access : TokenCache → α × TokenCache} {services : Services} (hopened : s.opened = .ok c)
    (hstore : (accessed clientId account s (access c).2).store = (.ok (), t)) :
    withCache clientId account access services s = (.ok (access c).1, t) := by
  have hnoted : (s.note .before clientId account).opened = .ok c :=
    (note_opened .before clientId account s).trans hopened
  exact bind_eq_ok_iff.2 ⟨(), _, load_of_opened hnoted,
    bind_eq_ok_iff.2 ⟨(access c).1, _, rfl, bind_eq_ok_iff.2 ⟨(), t, hstore, rfl⟩⟩⟩

/-- Reading a settled session gives what is found, and leaves the storage alone. -/
theorem reading_of_settled (h : s.Settled c) (clientId : String) (account : Option Account)
    (read : Store → α) (services : Services) :
    reading clientId account read services s =
      (.ok (read c.store), accessed clientId account s c) := by
  have hstore : (accessed clientId account s c).store =
      (.ok (), accessed clientId account s c) := by
    apply store_of_clean
    intro storage hsome
    rw [accessed_storage] at hsome
    rw [accessed_cache]
    exact h.clean storage hsome
  exact withCache_of_opened h.opened hstore

end Action

end SilentAuth
