import SilentAuth.Session

/-!
# What actions do to a session

Each action touches one part of a session. Looking hosts up changes what is known about hosts and
leaves the cache, the storage and the clock alone; an access to the cache changes the cache and the
storage; redeeming a refresh token moves the clock and may bring in what another process persisted.

* `Session.opened`: the cache on which the next access works.
* `Action.resolve_sameAccess`: looking up hosts does not disturb accesses.
* `Action.withCache_cases`: all that an access to the cache can do; `Action.withCache_eq_ok`: what is
  known after one that succeeded; `Action.withCache_eq_error`: why one fails.
* `Action.exchange_apply`: the answer to a refresh, and the session after it.
-/

namespace SilentAuth

namespace Session

/-! ### The cache on which an access works -/

/-- The cache on which the next access works: the one in memory, brought up to date with what is
persisted if there is a storage. -/
def opened (s : Session) : Except Error TokenCache :=
  match s.storage with
  | none => .ok s.cache
  | some storage => storage.load s.cache

/-- Noting an access changes neither the cache nor the storage. -/
theorem note_storage (moment : Moment) (clientId : String) (account : Option Account)
    (s : Session) : (s.note moment clientId account).storage = s.storage := by
  unfold note
  split <;> rfl

/-- Noting an access does not change the cache. -/
theorem note_cache (moment : Moment) (clientId : String) (account : Option Account)
    (s : Session) : (s.note moment clientId account).cache = s.cache := by
  unfold note
  split <;> rfl

/-- Noting an access does not change what it works on. -/
theorem note_opened (moment : Moment) (clientId : String) (account : Option Account)
    (s : Session) : (s.note moment clientId account).opened = s.opened := by
  unfold opened
  rw [note_storage, note_cache]

/-- The parts of a session that an access to the cache leaves alone: what is known about hosts,
the clock, and what was asked of the services. -/
structure SameSurroundings (s t : Session) : Prop where
  discovery : t.discovery = s.discovery
  now : t.now = s.now
  questions : t.journal.questions = s.journal.questions
  exchanges : t.journal.exchanges = s.journal.exchanges

namespace SameSurroundings

/-- Nothing is left alone more than by doing nothing. -/
theorem refl (s : Session) : SameSurroundings s s := ⟨rfl, rfl, rfl, rfl⟩

/-- One undisturbed stretch after another. -/
theorem trans {s t u : Session} (h : SameSurroundings s t) (h' : SameSurroundings t u) :
    SameSurroundings s u where
  discovery := h'.discovery.trans h.discovery
  now := h'.now.trans h.now
  questions := h'.questions.trans h.questions
  exchanges := h'.exchanges.trans h.exchanges

end SameSurroundings

/-- Noting an access leaves the surroundings alone. -/
theorem note_sameSurroundings (moment : Moment) (clientId : String) (account : Option Account)
    (s : Session) : SameSurroundings s (s.note moment clientId account) := by
  unfold note
  split
  · exact ⟨rfl, rfl, rfl, rfl⟩
  · exact .refl s

/-- The parts of a session that looking hosts up leaves alone: the cache, the storage, the clock,
and the refreshes made so far. -/
structure SameAccess (s t : Session) : Prop where
  cache : t.cache = s.cache
  storage : t.storage = s.storage
  now : t.now = s.now
  exchanges : t.journal.exchanges = s.journal.exchanges

/-- What an access works on depends on the cache and the storage alone. -/
theorem SameAccess.opened {s t : Session} (h : SameAccess s t) : t.opened = s.opened := by
  unfold Session.opened
  rw [h.storage, h.cache]

/-- Loading puts the opened cache in memory. -/
theorem load_eq_ok {s t : Session} (h : s.load = (.ok (), t)) :
    ∃ c, s.opened = .ok c ∧ t = { s with cache := c } := by
  unfold load at h
  unfold opened
  cases hs : s.storage with
  | none =>
    simp only [hs] at h
    cases h
    exact ⟨s.cache, rfl, by rw [← hs]⟩
  | some storage =>
    simp only [hs] at h ⊢
    split at h
    · rename_i c hc
      simp only [Prod.mk.injEq, true_and] at h
      exact ⟨c, hc, h.symm⟩
    · cases h

/-- If loading fails, there is no cache to work on. -/
theorem load_eq_error {s t : Session} {e : Error} (h : s.load = (.error e, t)) :
    s.opened = .error e := by
  unfold load at h
  unfold opened
  cases hs : s.storage with
  | none =>
    simp only [hs] at h
    cases h
  | some storage =>
    simp only [hs] at h ⊢
    split at h
    · cases h
    · rename_i error herror
      simp only [Prod.mk.injEq, Except.error.injEq] at h
      rw [herror, h.1]

/-- What is known after storing succeeded: without a storage nothing happened, and else the storage
and the cache are those that `Storage.store` gives. -/
structure Stored (s t : Session) : Prop where
  without : s.storage = none → t.storage = none ∧ t.cache = s.cache
  within : ∀ storage, s.storage = some storage →
    ∃ storage', storage.store s.cache = (.ok (), storage', t.cache) ∧ t.storage = some storage'

/-- Storing neither sets up a storage nor takes one away. -/
theorem Stored.isSome_storage {s t : Session} (h : Stored s t) :
    t.storage.isSome = s.storage.isSome := by
  cases hs : s.storage with
  | none => rw [(h.without hs).1]
  | some storage =>
    obtain ⟨storage', _, ht⟩ := h.within storage hs
    rw [ht]
    rfl

/-- Loading leaves the surroundings alone, whether it succeeds or not. -/
theorem load_sameSurroundings (s : Session) : SameSurroundings s s.load.2 := by
  unfold load
  cases s.storage with
  | none => exact .refl s
  | some storage =>
    dsimp only
    cases storage.load s.cache with
    | ok c => exact ⟨rfl, rfl, rfl, rfl⟩
    | error e => exact .refl s

/-- Storing leaves the surroundings alone, whether it succeeds or not. -/
theorem store_sameSurroundings (s : Session) : SameSurroundings s s.store.2 := by
  unfold store
  cases s.storage with
  | none => exact .refl s
  | some storage => exact ⟨rfl, rfl, rfl, rfl⟩

/-- Storing that succeeds persists the cache and leaves the surroundings alone. -/
theorem store_eq_ok {s t : Session} (h : s.store = (.ok (), t)) :
    s.Stored t ∧ SameSurroundings s t := by
  unfold store at h
  cases hs : s.storage with
  | none =>
    simp only [hs, Prod.mk.injEq, true_and] at h
    subst h
    refine ⟨⟨fun _ => ⟨hs, rfl⟩, ?_⟩, .refl s⟩
    intro storage hstorage
    rw [hs] at hstorage
    cases hstorage
  | some storage =>
    rcases hst : storage.store s.cache with ⟨result, storage', cache⟩
    simp only [hs, hst, Prod.mk.injEq] at h
    obtain ⟨rfl, rfl⟩ := h
    refine ⟨⟨?_, ?_⟩, ⟨rfl, rfl, rfl, rfl⟩⟩
    · intro hnone
      rw [hs] at hnone
      cases hnone
    · intro storage₁ h₁
      rw [hs] at h₁
      cases h₁
      exact ⟨storage', hst, rfl⟩

/-- If storing fails, the storage does not take the cache. -/
theorem store_eq_error {s t : Session} {e : Error} (h : s.store = (.error e, t)) :
    ∃ storage, s.storage = some storage ∧ (storage.store s.cache).1 = .error e := by
  unfold store at h
  cases hs : s.storage with
  | none =>
    simp only [hs] at h
    cases h
  | some storage =>
    simp only [hs] at h
    exact ⟨storage, rfl, (Prod.mk.inj h).1⟩

/-- Reading the cache fails with an error: what is persisted cannot be loaded, or the storage does
not take the cache back. -/
def Refuses (s : Session) (e : Error) : Prop :=
  s.opened = .error e ∨
    ∃ storage c, s.storage = some storage ∧ s.opened = .ok c ∧ (storage.store c).1 = .error e

/-- What an access would fail with depends on the cache and the storage alone. -/
theorem SameAccess.refuses_iff {s t : Session} (h : SameAccess s t) {e : Error} :
    t.Refuses e ↔ s.Refuses e := by
  unfold Refuses
  rw [h.opened, h.storage]

end Session

namespace Action

open Session

variable {α : Type}

/-- What is known already is given without a change. -/
theorem ofExcept_eq_ok_iff {result : Except Error α} {services : Services} {s t : Session} {v : α} :
    ofExcept result services s = (.ok v, t) ↔ result = .ok v ∧ s = t := by
  simp [ofExcept]

/-- A look at the state does not change it. -/
theorem view_eq_ok_iff {f : Session → α} {services : Services} {s t : Session} {v : α} :
    view f services s = (.ok v, t) ↔ f s = v ∧ s = t := by
  simp [view]

/-- An action goes on with the value of one that succeeded. -/
theorem bind_of_eq_ok {β : Type} {x : Action α} {f : α → Action β} {services : Services}
    {s t : Session} {a : α} (h : x services s = (.ok a, t)) :
    (x >>= f) services s = f a services t := by
  rw [bind_apply, h]

/-- A look at the state goes on in the same state. -/
theorem view_bind {β : Type} (f : Session → α) (g : α → Action β) (services : Services)
    (s : Session) : (view f >>= g) services s = g (f s) services s := rfl

/-- The error of an action ends everything. -/
theorem bind_of_eq_error {β : Type} {x : Action α} {f : α → Action β} {services : Services}
    {s t : Session} {e : Error} (h : x services s = (.error e, t)) :
    (x >>= f) services s = (.error e, t) := by
  rw [bind_apply, h]

/-- An action that goes on with the value of another one ends with the error of that one, or as it
goes on. -/
theorem bind_cases {β : Type} {x : Action α} {f : α → Action β} {services : Services}
    {s t : Session} {result : Except Error β} (h : (x >>= f) services s = (result, t)) :
    (∃ e, x services s = (.error e, t) ∧ result = .error e) ∨
      ∃ a s', x services s = (.ok a, s') ∧ f a services s' = (result, t) := by
  rw [bind_apply] at h
  cases hx : x services s with
  | mk first s' =>
    rw [hx] at h
    cases first with
    | error e =>
      cases h
      exact .inl ⟨e, rfl, rfl⟩
    | ok a => exact .inr ⟨a, s', rfl, h⟩

/-! ### Accesses to the cache -/

section

variable {clientId : String} {account : Option Account} {access : TokenCache → α × TokenCache}
  {services : Services} {s t : Session} {result : Except Error α}

/-- The session in which an access leaves its cache, before it is stored: both moments of the access
are noted. -/
def accessed (clientId : String) (account : Option Account) (s : Session) (c : TokenCache) :
    Session :=
  Session.note .after clientId account { s.note .before clientId account with cache := c }

/-- An access leaves the storage alone until the cache is stored. -/
theorem accessed_storage (c : TokenCache) :
    (accessed clientId account s c).storage = s.storage := by
  rw [accessed, note_storage]
  exact note_storage .before clientId account s

/-- The cache of an access is the one that it leaves behind. -/
theorem accessed_cache (c : TokenCache) : (accessed clientId account s c).cache = c := by
  rw [accessed, note_cache]

/-- Nothing but the cache and the notes on accesses changes in an access. -/
theorem accessed_sameSurroundings (c : TokenCache) :
    SameSurroundings s (accessed clientId account s c) := by
  have hbefore := note_sameSurroundings .before clientId account s
  have hcache : SameSurroundings (s.note .before clientId account)
      { s.note .before clientId account with cache := c } := ⟨rfl, rfl, rfl, rfl⟩
  exact (hbefore.trans hcache).trans (note_sameSurroundings .after clientId account _)

/-- All that an access to the cache can do: loading fails, or the access works on the opened cache
and the cache that it leaves is stored, which succeeds or not. -/
theorem withCache_cases (h : withCache clientId account access services s = (result, t)) :
    (∃ e, result = .error e ∧ (s.note .before clientId account).load = (.error e, t)) ∨
      ∃ c, s.opened = .ok c ∧ ∃ stored,
        (accessed clientId account s (access c).2).store = (stored, t) ∧
          result = stored.map fun _ => (access c).1 := by
  rcases bind_cases h with ⟨e, hload, rfl⟩ | ⟨_, s₁, hload, h⟩
  · exact .inl ⟨e, rfl, hload⟩
  obtain ⟨c, hc, rfl⟩ := load_eq_ok hload
  rw [note_opened] at hc
  obtain ⟨_, haccess, _⟩ | ⟨_, s₂, haccess, h⟩ := bind_cases h
  · cases haccess
  cases haccess
  rcases bind_cases h with ⟨e, hstore, rfl⟩ | ⟨_, s₃, hstore, hpure⟩
  · exact .inr ⟨c, hc, .error e, hstore, rfl⟩
  · cases hpure
    exact .inr ⟨c, hc, .ok (), hstore, rfl⟩

/-- An access to the cache leaves the surroundings alone, whether it succeeds or not. -/
theorem withCache_sameSurroundings
    (h : withCache clientId account access services s = (result, t)) : SameSurroundings s t := by
  rcases withCache_cases h with ⟨_, _, hload⟩ | ⟨c, _, _, hstore, _⟩
  · have hloaded := load_sameSurroundings (s.note .before clientId account)
    rw [hload] at hloaded
    exact (note_sameSurroundings .before clientId account s).trans hloaded
  · have hstored := store_sameSurroundings (accessed clientId account s (access c).2)
    rw [hstore] at hstored
    exact (accessed_sameSurroundings (access c).2).trans hstored

/-- What is known after an access to the cache that succeeded: it worked on the opened cache, the
cache it left was stored, and everything else is as before. -/
theorem withCache_eq_ok {v : α}
    (h : withCache clientId account access services s = (.ok v, t)) :
    ∃ c, s.opened = .ok c ∧ v = (access c).1 ∧
      Stored { s with cache := (access c).2 } t ∧ SameSurroundings s t := by
  obtain ⟨_, herror, _⟩ | ⟨c, hopened, stored, hstore, hresult⟩ := withCache_cases h
  · cases herror
  cases stored with
  | error e => cases hresult
  | ok _ =>
    cases hresult
    obtain ⟨hwithout, hwithin⟩ := (store_eq_ok hstore).1
    rw [accessed_storage, accessed_cache] at hwithout
    rw [accessed_storage, accessed_cache] at hwithin
    exact ⟨c, hopened, rfl, ⟨hwithout, hwithin⟩, withCache_sameSurroundings h⟩

/-- An access to the cache fails if what is persisted cannot be loaded, or if the storage does not
take the cache that the access leaves. -/
theorem withCache_eq_error {e : Error}
    (h : withCache clientId account access services s = (.error e, t)) :
    s.opened = .error e ∨ ∃ storage c, s.storage = some storage ∧ s.opened = .ok c ∧
      (storage.store (access c).2).1 = .error e := by
  rcases withCache_cases h with ⟨_, herror, hload⟩ | ⟨c, hopened, stored, hstore, hresult⟩
  · cases herror
    exact .inl (note_opened .before clientId account s ▸ load_eq_error hload)
  cases stored with
  | ok _ => cases hresult
  | error _ =>
    cases hresult
    obtain ⟨storage, hstorage, hrefused⟩ := store_eq_error hstore
    rw [accessed_storage] at hstorage
    rw [accessed_cache] at hrefused
    exact .inr ⟨storage, c, hstorage, hopened, hrefused⟩

end

/-- What is known after the store was read. -/
theorem reading_eq_ok {clientId : String} {account : Option Account} {read : Store → α}
    {services : Services} {s t : Session} {v : α}
    (h : reading clientId account read services s = (.ok v, t)) :
    ∃ c, s.opened = .ok c ∧ v = read c.store ∧ Stored { s with cache := c } t ∧
      SameSurroundings s t :=
  withCache_eq_ok h

/-- Reading the store fails only if the session refuses it. -/
theorem reading_eq_error {clientId : String} {account : Option Account} {read : Store → α}
    {services : Services} {s t : Session} {e : Error}
    (h : reading clientId account read services s = (.error e, t)) : s.Refuses e :=
  withCache_eq_error h

/-- What is known after the store was changed. -/
theorem changing_eq_ok {clientId : String} {account : Option Account} {result : Store → α}
    {change : Store → Store} {services : Services} {s t : Session} {v : α}
    (h : changing clientId account result change services s = (.ok v, t)) :
    ∃ c, s.opened = .ok c ∧ v = result c.store ∧ Stored { s with cache := c.modify change } t ∧
      SameSurroundings s t :=
  withCache_eq_ok h

/-! ### Use of the services -/

/-- Looking hosts up leaves the cache, the storage and the clock alone, and redeems nothing. -/
theorem resolve_sameAccess {a : Authority} {validate : Bool} {services : Services}
    {s t : Session} {result : Except Error InstanceMetadata}
    (h : resolve a validate services s = (result, t)) : SameAccess s t := by
  unfold resolve at h
  split at h
  · cases h
    exact ⟨rfl, rfl, rfl, rfl⟩
  · cases h
    exact ⟨rfl, rfl, rfl, rfl⟩
  · cases h
    exact ⟨rfl, rfl, rfl, rfl⟩

/-- A refresh always comes back with what the identity provider answers; it is noted, and neither
the cache in memory nor what is known about hosts changes. -/
theorem exchange_apply (request : RefreshRequest) (services : Services) (s : Session) :
    exchange request services s =
      (.ok (services.exchange s.journal.exchanges.length request).answer,
        { s with
          now := s.now.ticked (services.exchange s.journal.exchanges.length request).elapsed
          storage := s.storage.map fun storage =>
            (services.exchange s.journal.exchanges.length request).persisted.elim storage
              storage.overwrite
          journal.exchanges := s.journal.exchanges ++ [request] }) := rfl

/-- The identity provider always answers, be it with a failure. -/
theorem exchange_bind_cases {request : RefreshRequest}
    {f : Except ServiceError TokenResponse → Action α} {services : Services} {s t : Session}
    {result : Except Error α} (h : (exchange request >>= f) services s = (result, t)) :
    ∃ answer asked, exchange request services s = (.ok answer, asked) ∧
      f answer services asked = (result, t) := by
  obtain ⟨_, hexchange, _⟩ | hanswered := bind_cases h
  · cases hexchange
  · exact hanswered

end Action

end SilentAuth
