import SilentAuth.Proofs.Cache.Faithful
import SilentAuth.Proofs.Session.Rehosting

/-!
# What an unset flag says

A cache knows whether its store may differ from what is persisted. The flag goes back when the cache
is loaded, and when its document is handed out, before the text of it is written. So if it is not set,
the store is the document that was last read or handed out. Whether the text was written after that,
the flag does not tell; the access that could not write it does.

* `Visit`: an access to the cache, with the storage that it finds. Between two of them a storage may
  begin or cease to fail, and others may write to it.
* `Transfer`: a document that changes hands between a cache and its storage.
* `Visit.reflects_perform`: one access; `Visit.reflects_final`: a run of them.
* `Visit.unflagged_reflects`: what an unset flag says at the end of any run.
* `Visit.lost_text_unflagged`: a change that is not persisted, and not marked as such.
-/

namespace SilentAuth

open Session SilentAuth.Action

/-! ### Documents that change hands -/

/-- A document that changes hands between a cache and its storage, as a text. -/
inductive Transfer where
  /-- The cache is loaded from the text. -/
  | read (text : String)
  /-- The document is handed out, and its text is written. -/
  | wrote (document : Store)
  /-- The document is handed out, but its text cannot be written. -/
  | lost (document : Store)

namespace Transfer

/-- The text that changes hands. -/
def text : Transfer → String
  | read text => text
  | wrote document | lost document => document.text

/-- The text stands in the storage once it has changed hands. -/
def isKept : Transfer → Bool
  | read _ | wrote _ => true
  | lost _ => false

end Transfer

/-- The store is the document that last changed hands: the one that the text says if it was read, and
the one that was handed out otherwise. If there was none, the store is empty. -/
def Store.Reflects (store : Store) : Option Transfer → Prop
  | none => store = .empty
  | some (.read text) => TokenCache.parse? text = some store
  | some (.wrote document) | some (.lost document) => store = document

/-- The text that changed hands says the store that reflects it, if a text can say all that the store
holds. -/
theorem Store.Reflects.parse?_text {store : Store} {transfer : Transfer}
    (h : store.Reflects (some transfer)) (hfits : store.Fits) (hplain : store.Plain)
    (hfaithful : store.Faithful) : TokenCache.parse? transfer.text = some store := by
  cases transfer with
  | read text => exact h
  | wrote document | lost document =>
    obtain rfl : store = document := h
    rw [Transfer.text, TokenCache.parse?_text hfits, hfaithful.reread_eq hplain]

namespace Storage

/-- The document that a storage takes over from a cache, or should take over. -/
def handed? (storage : Storage) (c : TokenCache) : Option Transfer :=
  if storage.storeFault.isNone && c.changed then
    some (if storage.writable then .wrote c.document else .lost c.document)
  else none

/-- A storage to which nothing is handed leaves the cache as it is. -/
theorem store_of_handed?_eq_none {storage : Storage} {c : TokenCache}
    (h : storage.handed? c = none) : (storage.store c).2.2 = c := by
  unfold handed? at h
  unfold store
  cases hfault : storage.storeFault with
  | some fault => rfl
  | none =>
    cases hchanged : c.changed with
    | false => rfl
    | true => simp [hfault, hchanged] at h

/-- When a document is handed to a storage, the cache takes it for saved, also if it is lost, which is
an error; if it is not lost, its text is written. -/
theorem store_of_handed?_eq_some {storage : Storage} {c : TokenCache} {transfer : Transfer}
    (h : storage.handed? c = some transfer) :
    (storage.store c).2.2 = c.save.2 ∧ c.save.2.store.Reflects (some transfer) ∧
      if transfer.isKept then (storage.store c).2.1.content = .text transfer.text
      else (storage.store c).1 = .error .storage := by
  unfold handed? at h
  split at h
  · rename_i htaken
    simp only [Bool.and_eq_true, Option.isNone_iff_eq_none] at htaken
    obtain ⟨hfault, hchanged⟩ := htaken
    cases hwritable : storage.writable with
    | true =>
      obtain rfl : Transfer.wrote c.document = transfer := by simpa [hwritable] using h
      simp [store, hfault, hchanged, hwritable, Store.Reflects, Transfer.isKept, Transfer.text,
        TokenCache.save]
    | false =>
      obtain rfl : Transfer.lost c.document = transfer := by simpa [hwritable] using h
      simp [store, hfault, hchanged, hwritable, Store.Reflects, Transfer.isKept, TokenCache.save]
  · cases h

/-- A cache that is loaded, and is not marked as changed, has the store that the text says. If there
is no text, it is the cache that was in memory. -/
theorem reflects_of_load {storage : Storage} {c opened : TokenCache} {last : Option Transfer}
    (hload : storage.load c = .ok opened) (h : c.changed = false → c.store.Reflects last) :
    opened.changed = false →
      opened.store.Reflects ((storage.content.text?.map Transfer.read).or last) := by
  unfold load at hload
  split at hload
  · cases hload
  cases hcontent : storage.content with
  | nothing =>
    rw [hcontent] at hload
    cases hload
    exact h
  | unreadable =>
    rw [hcontent] at hload
    cases hload
  | text text =>
    intro _
    cases hparse : TokenCache.parse? text with
    | none => simp [hcontent, TokenCache.load?, hparse] at hload
    | some said =>
      obtain rfl : (⟨said, some said, false⟩ : TokenCache) = opened := by
        simpa [hcontent, TokenCache.load?, hparse] using hload
      exact hparse

end Storage

/-! ### Accesses to a storage that may fail -/

/-- An access of an application to its cache, with the storage that it finds. -/
structure Visit where
  storage : Storage
  clientId : String
  /-- The account for which the cache is accessed, if any. -/
  account : Option Account
  /-- How the store is changed, if it is not only read. -/
  change? : Option (Store → Store)

namespace Visit

/-- What an access does to the cache that was loaded. -/
def touch (v : Visit) (c : TokenCache) : TokenCache := v.change?.elim c c.modify

/-- An access, and the session after it. -/
def perform (v : Visit) (services : Services) (s : Session) : Except Error Unit × Session :=
  v.change?.elim (reading v.clientId v.account fun _ => ())
    (changing v.clientId v.account fun _ => ()) services { s with storage := some v.storage }

/-- The documents that change hands in an access, in order. A text that cannot be loaded does not. -/
def transfers (v : Visit) (c : TokenCache) : List Transfer :=
  match v.storage.load c with
  | .error _ => []
  | .ok opened =>
    (v.storage.content.text?.map .read).toList ++ (v.storage.handed? (v.touch opened)).toList

variable (services : Services)

/-- The session after some accesses. -/
def final (s : Session) (visits : List Visit) : Session :=
  visits.foldl (fun s v => (v.perform services s).2) s

/-- The documents that change hands in some accesses, in order. -/
def history (s : Session) : List Visit → List Transfer
  | [] => []
  | v :: rest => v.transfers s.cache ++ history (v.perform services s).2 rest

/-! ### One access -/

/-- An access is one to the session that has the storage. -/
theorem perform_eq (v : Visit) (s : Session) : v.perform services s =
    withCache v.clientId v.account (fun c => ((), v.touch c)) services
      { s with storage := some v.storage } := by
  unfold perform touch
  cases v.change? <;> rfl

/-- If what is persisted cannot be loaded, then the access fails, and the cache stays. -/
theorem perform_of_load_error (v : Visit) {s : Session} {e : Error}
    (h : v.storage.load s.cache = .error e) :
    (v.perform services s).1 = .error e ∧ (v.perform services s).2.cache = s.cache := by
  have hopened : Session.opened { s with storage := some v.storage } = .error e := h
  rw [perform_eq, withCache_apply, hopened]
  exact ⟨rfl, note_cache _ _ _ _⟩

/-- Otherwise the access ends as the cache is stored on which it worked. -/
theorem perform_of_load_ok (v : Visit) {s : Session} {c : TokenCache}
    (h : v.storage.load s.cache = .ok c) :
    (v.perform services s).1 = (v.storage.store (v.touch c)).1 ∧
      (v.perform services s).2.storage = some (v.storage.store (v.touch c)).2.1 ∧
      (v.perform services s).2.cache = (v.storage.store (v.touch c)).2.2 := by
  have hopened : Session.opened { s with storage := some v.storage } = .ok c := h
  rw [perform_eq, withCache_apply, hopened]
  dsimp only
  unfold Session.store
  rw [accessed_storage, accessed_cache]
  refine ⟨?_, rfl, rfl⟩
  cases (v.storage.store (v.touch c)).1 <;> rfl

/-- **Step.** After an access, an unset flag says that the store is the document that last changed
hands, if it said so before. -/
theorem reflects_perform (v : Visit) {s : Session} {last : Option Transfer}
    (h : s.cache.changed = false → s.cache.store.Reflects last) :
    (v.perform services s).2.cache.changed = false →
      (v.perform services s).2.cache.store.Reflects ((v.transfers s.cache).getLast?.or last) := by
  unfold transfers
  cases hload : v.storage.load s.cache with
  | error e =>
    rw [(v.perform_of_load_error services hload).2]
    exact h
  | ok opened =>
    rw [(v.perform_of_load_ok services hload).2.2]
    dsimp only
    have hopened := Storage.reflects_of_load hload h
    cases hhanded : v.storage.handed? (v.touch opened) with
    | some transfer =>
      obtain ⟨hcache, hreflects, _⟩ := Storage.store_of_handed?_eq_some hhanded
      intro _
      rw [hcache, Option.toList_some, List.getLast?_concat, Option.some_or]
      exact hreflects
    | none =>
      rw [Storage.store_of_handed?_eq_none hhanded, Option.toList_none, List.append_nil]
      -- a change sets the flag, so the access only read
      cases hchange : v.change? with
      | some change =>
        intro hunset
        simp [touch, hchange, TokenCache.modify] at hunset
      | none =>
        rw [touch, hchange, Option.elim_none]
        cases htext : v.storage.content.text?.map Transfer.read with
        | none =>
          rw [htext] at hopened
          exact hopened
        | some transfer =>
          rw [htext] at hopened
          exact hopened

/-- What is handed out in an access is handed to its storage when the cache is stored. -/
theorem exists_handed (v : Visit) {c : TokenCache} {transfer : Transfer}
    (h : transfer ∈ v.transfers c) (hread : ∀ text, transfer ≠ .read text) :
    ∃ opened, v.storage.load c = .ok opened ∧
      v.storage.handed? (v.touch opened) = some transfer := by
  unfold transfers at h
  cases hload : v.storage.load c with
  | error e =>
    rw [hload] at h
    cases h
  | ok opened =>
    rw [hload] at h
    rcases List.mem_append.1 h with hloaded | hhanded
    · obtain ⟨text, _, hsame⟩ := Option.map_eq_some_iff.1 (Option.mem_toList.1 hloaded)
      exact absurd hsame.symm (hread text)
    · exact ⟨opened, rfl, Option.mem_toList.1 hhanded⟩

/-- An access whose document is lost fails. -/
theorem perform_of_lost (v : Visit) {s : Session} {document : Store}
    (h : .lost document ∈ v.transfers s.cache) :
    (v.perform services s).1 = .error .storage := by
  obtain ⟨opened, hload, hhanded⟩ := v.exists_handed h (by simp)
  rw [(v.perform_of_load_ok services hload).1]
  exact (Storage.store_of_handed?_eq_some hhanded).2.2

/-- After an access whose document is not lost, the text of it is what is persisted. -/
theorem perform_of_wrote (v : Visit) {s : Session} {document : Store}
    (h : .wrote document ∈ v.transfers s.cache) :
    ∃ storage, (v.perform services s).2.storage = some storage ∧
      storage.content = .text document.text := by
  obtain ⟨opened, hload, hhanded⟩ := v.exists_handed h (by simp)
  exact ⟨_, (v.perform_of_load_ok services hload).2.1,
    (Storage.store_of_handed?_eq_some hhanded).2.2⟩

/-! ### Runs of accesses -/

/-- **Run.** An unset flag goes on to say that the store is the document that last changed hands. -/
theorem reflects_final {s : Session} {last : Option Transfer}
    (h : s.cache.changed = false → s.cache.store.Reflects last) (visits : List Visit) :
    (final services s visits).cache.changed = false →
      (final services s visits).cache.store.Reflects
        ((history services s visits).getLast?.or last) := by
  induction visits generalizing s last with
  | nil => exact h
  | cons v rest ih =>
    have hrest := ih (v.reflects_perform services h)
    rw [history, List.getLast?_append, Option.or_assoc]
    exact hrest

/-- What is left of a list that does not end with an element that is left out ends as the list does. -/
theorem getLast?_filter_isKept {transfers : List Transfer}
    (h : ∀ document, transfers.getLast? ≠ some (.lost document)) :
    (transfers.filter Transfer.isKept).getLast? = transfers.getLast? := by
  rcases List.eq_nil_or_concat transfers with rfl | ⟨before, last, rfl⟩
  · rfl
  · rw [List.concat_eq_append, List.getLast?_concat] at h ⊢
    have hkept : last.isKept = true := by
      cases last with
      | lost document => exact absurd rfl (h document)
      | read text => rfl
      | wrote document => rfl
    rw [List.filter_append, List.filter_cons_of_pos hkept, List.filter_nil, List.getLast?_concat]

/-- **What an unset flag says.** A cache starts out new, and any accesses follow, on storages that may
fail to be read or written each time. If then the flag is not set, the store is the document that was
last read or handed out. It is the document that was last read or written, unless one that was handed
out after that was lost. An access whose document is lost fails, and one whose document is written
leaves the text of it in the storage. The text that last changed hands says the store, if a text can
say all that the store holds. -/
theorem unflagged_reflects (services : Services) (s : Session) (visits : List Visit) :
    let start : Session := { s with cache := .new }
    let t := final services start visits
    let transfers := history services start visits
    (t.cache.changed = false → t.cache.store.Reflects transfers.getLast?) ∧
      (t.cache.changed = false → (∀ document, transfers.getLast? ≠ some (.lost document)) →
        t.cache.store.Reflects (transfers.filter Transfer.isKept).getLast?) ∧
      (∀ (v : Visit) (document : Store), .lost document ∈ v.transfers t.cache →
        (v.perform services t).1 = .error .storage) ∧
      (∀ (v : Visit) (document : Store), .wrote document ∈ v.transfers t.cache →
        ∃ storage, (v.perform services t).2.storage = some storage ∧
          storage.content = .text document.text) ∧
      (t.cache.changed = false → t.cache.store.Fits → t.cache.store.Plain →
        t.cache.store.Faithful → ∀ transfer, transfers.getLast? = some transfer →
          TokenCache.parse? transfer.text = some t.cache.store) := by
  intro start t transfers
  have hreflects : t.cache.changed = false → t.cache.store.Reflects transfers.getLast? := by
    have hempty : start.cache.changed = false → start.cache.store.Reflects none := fun _ => rfl
    have hrun := reflects_final services hempty visits
    rwa [Option.or_none] at hrun
  refine ⟨hreflects, ?_, fun v document => v.perform_of_lost services,
    fun v document => v.perform_of_wrote services, ?_⟩
  · intro hunset hkept
    rw [getLast?_filter_isKept hkept]
    exact hreflects hunset
  · intro hunset hfits hplain hfaithful transfer htransfer
    have hlast : t.cache.store.Reflects (some transfer) := htransfer ▸ hreflects hunset
    exact hlast.parse?_text hfits hplain hfaithful

/-! ### A change that is lost -/

namespace Sample

/-- A change is to be persisted in a document that holds nothing, and cannot be written. -/
def change : Visit :=
  ⟨⟨.text "", false, none, none⟩, "client", none,
    some (·.putAppMetadata ⟨"client", "login.example.org", none, .empty⟩)⟩

/-- A session with a new cache. -/
def session : Session := ⟨.new, .offline, ⟨0⟩, none, .empty⟩

/-- Services of which nothing is asked. -/
def idle : Services := ⟨fun _ _ => none, fun _ _ => ⟨.error .unspecified, none, ⟨0⟩⟩⟩

end Sample

/-- A document that holds nothing is read, and changed, and its new text cannot be written. The access
fails, but the flag is not set any more, though the store in memory is not what was last read, and
nothing was ever written. -/
theorem lost_text_unflagged :
    (Sample.change.perform Sample.idle Sample.session).1 = .error .storage ∧
      (final Sample.idle Sample.session [Sample.change]).cache.changed = false ∧
      (history Sample.idle Sample.session [Sample.change]).filter Transfer.isKept = [.read ""] ∧
      ¬ (final Sample.idle Sample.session [Sample.change]).cache.store.Reflects
        (some (.read "")) := by
  refine ⟨by rfl, by rfl, by rfl, ?_⟩
  intro hread
  have hempty : TokenCache.parse? "" = some .empty := by rfl
  have hsame := Option.some.inj (hempty.symm.trans hread)
  have hsize := congrArg (fun store : Store => store.appMetadata.size) hsame
  cases hsize

end Visit

end SilentAuth
