import SilentAuth.Proofs.Cache.RehostedTexts
import SilentAuth.Proofs.Session.InMemory

/-!
# Sessions with rehosted records

Two sessions are compared that differ in the hosts of their records, in memory or in what is
persisted. The next access opens rehosted caches in them, or fails in both for the same reason. After
it the two need not be rehosted any more, since what was persisted has been read and written; but
they still fail alike, whatever is done with their caches.

* `Session.Rehosted`: sessions whose records are rehosted, in memory and in the storage.
* `Session.Alike`: sessions whose accesses fail alike.
* `Action.reading_rehosted`: a reader that does not tell rehosted stores apart reads the same in
  rehosted sessions, and leaves sessions that are alike.
* `Action.EndAlike`: runs that end with the same result and asked the identity provider the same.
-/

namespace SilentAuth

variable {names : List String}

/-! ### Rehosted caches -/

/-- Caches whose records are rehosted, in memory and in the document they last loaded or saved. -/
structure TokenCache.Rehosted (names : List String) (c c' : TokenCache) : Prop where
  store : c.store.Rehosted names c'.store
  baseline : Option.Rel (Store.Rehosted names) c.baseline c'.baseline
  changed : c'.changed = c.changed

namespace TokenCache.Rehosted

variable {c c' : TokenCache}

theorem refl (names : List String) (c : TokenCache) : TokenCache.Rehosted names c c := by
  refine ⟨.refl names c.store, ?_, rfl⟩
  cases c.baseline with
  | none => exact .none
  | some b => exact .some (.refl names b)

/-- Rehosted caches are persisted as rehosted documents. -/
theorem document (h : c.Rehosted names c') : c.document.Rehosted names c'.document := by
  have hbaseline := h.baseline
  unfold TokenCache.document
  generalize c.baseline = baseline, c'.baseline = baseline' at hbaseline ⊢
  cases hbaseline with
  | none => exact h.store
  | some hb => exact hb.merge h.store

end TokenCache.Rehosted

/-- What is persisted is the same, or it is two texts that say rehosted stores. -/
inductive Persisted.Rehosted (names : List String) : Persisted → Persisted → Prop
  | same (content : Persisted) : Rehosted names content content
  | text {text text' : String} {store store' : Store}
    (parsed : TokenCache.parse? text = some store) (parsed' : TokenCache.parse? text' = some store')
    (rehosted : store.Rehosted names store') : Rehosted names (.text text) (.text text')

/-- Storages that work in the same way, and in which the records are rehosted. -/
structure Storage.Rehosted (names : List String) (storage storage' : Storage) : Prop where
  content : storage.content.Rehosted names storage'.content
  writable : storage'.writable = storage.writable
  loadFault : storage'.loadFault = storage.loadFault
  storeFault : storage'.storeFault = storage.storeFault

/-- Sessions that differ in the hosts of records only. -/
structure Session.Rehosted (names : List String) (s s' : Session) : Prop where
  cache : s.cache.Rehosted names s'.cache
  storage : Option.Rel (Storage.Rehosted names) s.storage s'.storage
  discovery : s'.discovery = s.discovery
  now : s'.now = s.now
  journal : s'.journal = s.journal

/-- What is loaded from rehosted storages is rehosted, or loading fails for the same reason. -/
theorem Storage.Rehosted.load {storage storage' : Storage}
    (h : storage.Rehosted names storage') {c c' : TokenCache} (hc : c.Rehosted names c') :
    (∃ e, storage.load c = .error e ∧ storage'.load c' = .error e) ∨
      ∃ loaded loaded', storage.load c = .ok loaded ∧ storage'.load c' = .ok loaded' ∧
        loaded.Rehosted names loaded' := by
  have hcontent := h.content
  unfold Storage.load
  rw [h.loadFault]
  cases storage.loadFault with
  | some fault => exact .inl ⟨_, rfl, rfl⟩
  | none =>
    generalize storage.content = content, storage'.content = content' at hcontent ⊢
    cases hcontent with
    | same =>
      cases content with
      | nothing => exact .inr ⟨c, c', rfl, rfl, hc⟩
      | unreadable => exact .inl ⟨_, rfl, rfl⟩
      | text text =>
        cases hload : TokenCache.load? text with
        | none => exact .inl ⟨.malformedCacheData, by simp [hload], by simp [hload]⟩
        | some loaded =>
          exact .inr ⟨loaded, loaded, by simp [hload], by simp [hload], .refl names loaded⟩
    | @text text text' store store' parsed parsed' rehosted =>
      refine .inr ⟨⟨store, some store, false⟩, ⟨store', some store', false⟩, ?_, ?_, ?_⟩
      · simp [TokenCache.load?, parsed]
      · simp [TokenCache.load?, parsed']
      · exact ⟨rehosted, .some rehosted, rfl⟩

/-- The next access opens rehosted caches in rehosted sessions, or it fails for the same reason. -/
theorem Session.Rehosted.opened {s s' : Session} (h : s.Rehosted names s') :
    (∃ e, s.opened = .error e ∧ s'.opened = .error e) ∨
      ∃ c c', s.opened = .ok c ∧ s'.opened = .ok c' ∧ c.Rehosted names c' := by
  have hstorage := h.storage
  unfold Session.opened
  generalize s.storage = storage, s'.storage = storage' at hstorage ⊢
  cases hstorage with
  | none => exact .inr ⟨_, _, rfl, rfl, h.cache⟩
  | some hr => exact hr.load h.cache

/-! ### Sessions that fail alike -/

/-- Why what is persisted cannot be loaded, if it cannot. -/
def Persisted.fault? : Persisted → Option Error
  | .nothing => none
  | .text t => if (TokenCache.parse? t).isSome then none else some .malformedCacheData
  | .unreadable => some .storage

/-- Storages that fail alike. -/
structure Storage.Alike (storage storage' : Storage) : Prop where
  content : storage'.content.fault? = storage.content.fault?
  writable : storage'.writable = storage.writable
  loadFault : storage'.loadFault = storage.loadFault
  storeFault : storage'.storeFault = storage.storeFault

/-- Sessions in which the time and the refreshes so far are the same, and whose storages fail alike.
-/
structure Session.Alike (s s' : Session) : Prop where
  storage : Option.Rel Storage.Alike s.storage s'.storage
  now : s'.now = s.now
  exchanges : s'.journal.exchanges = s.journal.exchanges

namespace Storage

variable {storage storage' : Storage} {c c' : TokenCache}

/-- Loading fails for a fault of the storage or of what is persisted, whatever is in memory. -/
theorem load_map_unit (storage : Storage) (c : TokenCache) :
    (storage.load c).map (fun _ => ()) =
      match (storage.loadFault.map StorageFault.toError).or storage.content.fault? with
      | some e => .error e
      | none => .ok () := by
  unfold load
  cases storage.loadFault with
  | some fault => rfl
  | none =>
    cases storage.content with
    | nothing => rfl
    | unreadable => rfl
    | text text =>
      simp only [TokenCache.load?, Persisted.fault?]
      cases TokenCache.parse? text <;> rfl

/-- Storages that are alike are loaded with the same result. -/
theorem Alike.load (h : storage.Alike storage') (c c' : TokenCache) :
    (storage'.load c').map (fun _ => ()) = (storage.load c).map fun _ => () := by
  rw [load_map_unit, load_map_unit, h.loadFault, h.content]

/-- Two caches are stored alike if both were changed or neither was. -/
theorem Alike.store (h : storage.Alike storage') (hchanged : c'.changed = c.changed) :
    (storage'.store c').1 = (storage.store c).1 := by
  unfold Storage.store
  rw [h.storeFault, hchanged, h.writable]
  cases storage.storeFault with
  | some fault => rfl
  | none => cases c.changed <;> cases storage.writable <;> rfl

/-- What a storage holds after a cache was stored. -/
theorem store_storage (storage : Storage) (c : TokenCache) :
    (storage.store c).2.1 = { storage with
      content := if storage.storeFault = none ∧ c.changed = true ∧ storage.writable = true then
        .text c.save.1 else storage.content } := by
  obtain ⟨content, writable, loadFault, storeFault⟩ := storage
  unfold Storage.store
  cases storeFault with
  | some fault => simp
  | none => cases c.changed <;> cases writable <;> simp

/-- The storages are alike afterwards if the two texts can be loaded or neither can. -/
theorem Alike.stored (h : storage.Alike storage') (hchanged : c'.changed = c.changed)
    (htext : (TokenCache.parse? c'.save.1).isSome = (TokenCache.parse? c.save.1).isSome) :
    (storage.store c).2.1.Alike (storage'.store c').2.1 := by
  rw [store_storage, store_storage]
  refine ⟨?_, h.writable, h.loadFault, h.storeFault⟩
  dsimp only
  rw [h.storeFault, hchanged, h.writable]
  split
  · rw [Persisted.fault?, Persisted.fault?, htext]
  · exact h.content

/-- What others persist makes no difference. -/
theorem Alike.overwrite (h : storage.Alike storage') (content : Persisted) :
    (storage.overwrite content).Alike (storage'.overwrite content) := by
  unfold Storage.overwrite
  rw [h.writable]
  split
  · exact ⟨rfl, rfl, h.loadFault, h.storeFault⟩
  · exact h

end Storage

/-- Rehosted storages are alike. -/
theorem Storage.Rehosted.alike {storage storage' : Storage}
    (h : storage.Rehosted names storage') : storage.Alike storage' := by
  refine ⟨?_, h.writable, h.loadFault, h.storeFault⟩
  have hcontent := h.content
  generalize storage.content = content, storage'.content = content' at hcontent ⊢
  cases hcontent with
  | same => rfl
  | text parsed parsed' _ =>
    rw [Persisted.fault?, Persisted.fault?, parsed, parsed']
    rfl

/-! ### Accesses -/

namespace Session

variable {s s' : Session}

/-- What storing says is what the storage says. -/
theorem store_result (s : Session) :
    s.store.1 = match s.storage with
      | none => .ok ()
      | some storage => (storage.store s.cache).1 := by
  unfold Session.store
  cases s.storage <;> rfl

/-- What storing leaves in the storage. -/
theorem store_storage (s : Session) :
    s.store.2.storage = s.storage.map fun storage => (storage.store s.cache).2.1 := by
  unfold Session.store
  cases hs : s.storage with
  | none => exact hs
  | some storage => rfl

/-- Sessions that are alike open their caches or fail to do so for the same reason. -/
theorem Alike.opened (h : s.Alike s') :
    (∃ e, s.opened = .error e ∧ s'.opened = .error e) ∨
      ∃ c c', s.opened = .ok c ∧ s'.opened = .ok c' := by
  have hstorage := h.storage
  unfold Session.opened
  generalize s.storage = storage, s'.storage = storage' at hstorage ⊢
  cases hstorage with
  | none => exact .inr ⟨_, _, rfl, rfl⟩
  | @some storage storage' hr =>
    have hload := hr.load s.cache s'.cache
    dsimp only
    cases hfirst : storage.load s.cache with
    | error e =>
      rw [hfirst] at hload
      cases hsecond : storage'.load s'.cache with
      | error e' =>
        rw [hsecond] at hload
        cases hload
        exact .inl ⟨e, rfl, rfl⟩
      | ok c' =>
        rw [hsecond] at hload
        cases hload
    | ok c =>
      rw [hfirst] at hload
      cases hsecond : storage'.load s'.cache with
      | error e' =>
        rw [hsecond] at hload
        cases hload
      | ok c' => exact .inr ⟨c, c', rfl, rfl⟩

/-- Rehosted sessions are alike. -/
theorem Rehosted.alike (h : s.Rehosted names s') : s.Alike s' := by
  refine ⟨?_, h.now, by rw [h.journal]⟩
  have hstorage := h.storage
  generalize s.storage = storage, s'.storage = storage' at hstorage ⊢
  cases hstorage with
  | none => exact .none
  | some hr => exact .some hr.alike

end Session

namespace Action

open Session

variable {α : Type} {services : Services} {s s' : Session} {c c' : TokenCache}

/-- What an access to the cache gives, and the session after it. -/
theorem withCache_apply (clientId : String) (account : Option Account)
    (access : TokenCache → α × TokenCache) (services : Services) (s : Session) :
    withCache clientId account access services s =
      match s.opened with
      | .error e => (.error e, s.note .before clientId account)
      | .ok c =>
        ((accessed clientId account s (access c).2).store.1.map fun _ => (access c).1,
          (accessed clientId account s (access c).2).store.2) := by
  cases hopened : s.opened with
  | error e => exact withCache_of_opened_error hopened
  | ok c =>
    rcases hrun : withCache clientId account access services s with ⟨result, t⟩
    rcases withCache_cases hrun with ⟨e, _, hload⟩ | ⟨opened, hc, stored, hstore, rfl⟩
    · have hnone := load_eq_error hload
      rw [note_opened, hopened] at hnone
      cases hnone
    · cases hopened.symm.trans hc
      dsimp only
      rw [hstore]

/-- Two caches are stored with the same result in sessions that are alike, if both were changed or
neither was. -/
theorem accessed_store_result (h : s.Alike s') (hchanged : c'.changed = c.changed)
    (clientId clientId' : String) (account account' : Option Account) :
    (accessed clientId' account' s' c').store.1 = (accessed clientId account s c).store.1 := by
  have hstorage := h.storage
  rw [store_result, store_result, accessed_storage, accessed_storage, accessed_cache,
    accessed_cache]
  generalize s.storage = storage, s'.storage = storage' at hstorage ⊢
  cases hstorage with
  | none => rfl
  | some hr => exact hr.store hchanged

/-- The sessions are alike afterwards if the two texts can be loaded or neither can. -/
theorem accessed_store_alike (h : s.Alike s') (hchanged : c'.changed = c.changed)
    (htext : (TokenCache.parse? c'.save.1).isSome = (TokenCache.parse? c.save.1).isSome)
    (clientId clientId' : String) (account account' : Option Account) :
    (accessed clientId account s c).store.2.Alike (accessed clientId' account' s' c').store.2 := by
  have hsame : SameSurroundings s (accessed clientId account s c).store.2 :=
    (accessed_sameSurroundings c).trans (store_sameSurroundings _)
  have hsame' : SameSurroundings s' (accessed clientId' account' s' c').store.2 :=
    (accessed_sameSurroundings c').trans (store_sameSurroundings _)
  refine ⟨?_, by rw [hsame'.now, hsame.now, h.now],
    by rw [hsame'.exchanges, hsame.exchanges, h.exchanges]⟩
  have hstorage := h.storage
  rw [Session.store_storage, Session.store_storage, accessed_storage, accessed_storage,
    accessed_cache, accessed_cache]
  generalize s.storage = storage, s'.storage = storage' at hstorage ⊢
  cases hstorage with
  | none => exact .none
  | some hr => exact .some (hr.stored hchanged htext)

/-- Noting an access keeps sessions alike. -/
theorem note_alike (h : s.Alike s') (moment : Moment) (clientId clientId' : String)
    (account account' : Option Account) :
    (s.note moment clientId account).Alike (s'.note moment clientId' account') := by
  have hsame := note_sameSurroundings moment clientId account s
  have hsame' := note_sameSurroundings moment clientId' account' s'
  refine ⟨?_, by rw [hsame'.now, hsame.now, h.now],
    by rw [hsame'.exchanges, hsame.exchanges, h.exchanges]⟩
  rw [note_storage, note_storage]
  exact h.storage

/-- A reader that does not tell rehosted stores apart, up to `view`, reads the same in rehosted
sessions, which are alike afterwards. -/
theorem reading_rehosted {β : Type} (h : s.Rehosted names s') (services : Services)
    (clientId : String) (account account' : Option Account) {read read' : Store → α} (view : α → β)
    (hread : ∀ store store', store.Rehosted names store' → view (read' store') = view (read store)) :
    (reading clientId account' read' services s').1.map view =
        (reading clientId account read services s).1.map view ∧
      (reading clientId account read services s).2.Alike
        (reading clientId account' read' services s').2 := by
  unfold reading
  rw [withCache_apply, withCache_apply]
  rcases h.opened with ⟨e, hs, hs'⟩ | ⟨c, c', hs, hs', hc⟩
  · rw [hs, hs']
    exact ⟨rfl, note_alike h.alike _ _ _ _ _⟩
  · rw [hs, hs']
    dsimp only
    refine ⟨?_, accessed_store_alike h.alike hc.changed
      (TokenCache.parse?_text_isSome hc.document) _ _ _ _⟩
    rw [accessed_store_result h.alike hc.changed clientId clientId account account']
    cases (accessed clientId account s c).store.1 with
    | error e => rfl
    | ok _ => exact congrArg Except.ok (hread _ _ hc.store)

/-! ### Runs that end alike -/

/-- Two runs end alike: with the same error, or with values that `view` does not tell apart, and the
identity provider was asked the same. -/
structure EndAlike {α β : Type} (view : α → β) (run run' : Except Error α × Session) : Prop where
  result : run'.1.map view = run.1.map view
  exchanges : run'.2.journal.exchanges = run.2.journal.exchanges

/-- Runs end alike if their first steps give values that a view does not tell apart and leave sessions
that are alike, and from there on they end alike. -/
theorem EndAlike.bind {α β γ δ : Type} {x x' : Action α} {f f' : α → Action γ} {view : α → β}
    {view' : γ → δ} (hresult : (x' services s').1.map view = (x services s).1.map view)
    (hsession : (x services s).2.Alike (x' services s').2)
    (hrest : ∀ a a' t t', view a' = view a → t.Alike t' →
      EndAlike view' (f a services t) (f' a' services t')) :
    EndAlike view' ((x >>= f) services s) ((x' >>= f') services s') := by
  rw [bind_apply, bind_apply]
  rcases hx : x services s with ⟨e | a, t⟩ <;> rcases hx' : x' services s' with ⟨e' | a', t'⟩ <;>
    rw [hx, hx'] at hresult hsession
  · cases hresult
    exact ⟨rfl, hsession.exchanges⟩
  · cases hresult
  · cases hresult
  · exact hrest a a' t t' (Except.ok.inj hresult) hsession

/-- Hosts are looked up in rehosted sessions with the same result, and the sessions stay rehosted. -/
theorem resolve_rehosted (h : s.Rehosted names s') {a : Authority} {validate : Bool}
    {result : Except Error InstanceMetadata} {t : Session}
    (hrun : resolve a validate services s = (result, t)) :
    ∃ t', resolve a validate services s' = (result, t') ∧ t.Rehosted names t' := by
  unfold resolve at hrun ⊢
  rw [h.discovery, h.journal]
  cases hinquiry : s.discovery.inquire a with
  | known m =>
    rw [hinquiry] at hrun
    cases hrun
    exact ⟨s', rfl, h⟩
  | alone =>
    rw [hinquiry] at hrun
    cases hrun
    exact ⟨_, rfl, h.cache, h.storage, rfl, h.now, rfl⟩
  | ask question =>
    rw [hinquiry] at hrun
    cases hrun
    exact ⟨_, rfl, h.cache, h.storage, rfl, h.now, rfl⟩

/-- The identity provider is asked the same, and sessions that are alike stay so. -/
theorem exchange_alike (h : s.Alike s') (request : RefreshRequest) (services : Services) :
    (exchange request services s).2.Alike (exchange request services s').2 := by
  rw [exchange_apply, exchange_apply, h.exchanges, h.now]
  refine ⟨?_, rfl, rfl⟩
  have hstorage := h.storage
  generalize s.storage = storage, s'.storage = storage' at hstorage ⊢
  cases hstorage with
  | none => exact .none
  | some hr =>
    cases (services.exchange s.journal.exchanges.length request).persisted with
    | none => exact .some hr
    | some content => exact .some (hr.overwrite content)

/-- Results that a view does not tell apart stay so when their errors are wrapped. -/
theorem map_mapError_congr {α β ε : Type} {view : α → β} {known known' : Except ε α}
    (h : known'.map view = known.map view) (toError : ε → Error) :
    (known'.mapError toError).map view = (known.mapError toError).map view := by
  cases known with
  | error e =>
    cases known' with
    | error e' =>
      obtain rfl : e' = e := Except.error.inj h
      rfl
    | ok a' => cases h
  | ok a =>
    cases known' with
    | error e' => cases h
    | ok a' => exact congrArg Except.ok (Except.ok.inj h)

/-- A change of the cache that gives the same whatever is cached gives the same in sessions that are
alike, and asks nobody. -/
theorem changing_alike {α : Type} (h : s.Alike s') (services : Services) (clientId : String)
    (account account' : Option Account) {value value' : α} (hvalue : value' = value)
    (change change' : Store → Store) :
    EndAlike id (changing clientId account (fun _ => value) change services s)
      (changing clientId account' (fun _ => value') change' services s') := by
  subst hvalue
  unfold changing
  constructor
  · rw [withCache_apply, withCache_apply]
    rcases h.opened with ⟨e, hs, hs'⟩ | ⟨c, c', hs, hs'⟩
    · rw [hs, hs']
    · rw [hs, hs']
      dsimp only
      have hchanged : (c'.modify change').changed = (c.modify change).changed := rfl
      rw [accessed_store_result h hchanged clientId clientId account account']
  · rw [(withCache_sameSurroundings (Prod.eta _).symm).exchanges,
      (withCache_sameSurroundings (Prod.eta _).symm).exchanges, h.exchanges]

end Action

end SilentAuth
