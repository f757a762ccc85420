import SilentAuth.Proofs.Cache.Faithful
import SilentAuth.Proofs.Cache.Keeping
import SilentAuth.Proofs.Cache.Written

/-!
# Saving and loading

A cache that was loaded from a text is changed and saved, any number of times. What it saves can be
loaded again, and loading it gives the very cache that was left in memory by saving it, with the same
store, which is saved as the same text.

* `Store.Change`: what is done with the store of a cache.
* `TokenCache.Reproducible`: caches that can be loaded from what they save.
* `TokenCache.Reproducible.run`: whatever is done with such a cache, it stays one.
* `TokenCache.saved_run_reloads`: loading what was saved.
-/

namespace SilentAuth

/-! ### Records of any kind -/

namespace Entry

/-- Reads a record of a kind, with at most `depth` containers around each other. -/
def read? (kind : RecordKind) (depth : Nat) (tree : ParseTree) : Option Entry :=
  match kind with
  | .accessToken => (CacheRecord.read? depth tree).map accessToken
  | .refreshToken => (CacheRecord.read? depth tree).map refreshToken
  | .idToken => (CacheRecord.read? depth tree).map idToken
  | .account => (CacheRecord.read? depth tree).map account
  | .appMetadata => (CacheRecord.read? depth tree).map appMetadata

/-- The record satisfies a condition. -/
def Satisfies (P : {α : Type} → [CacheRecord α] → α → Prop) : Entry → Prop
  | accessToken r => P r
  | refreshToken r => P r
  | idToken r => P r
  | account r => P r
  | appMetadata r => P r

/-- A record that was read fits where it was read. -/
theorem fits_of_read? {kind : RecordKind} {depth : Nat} {tree : ParseTree} {e : Entry}
    (h : read? kind depth tree = some e) : e.Satisfies (CacheRecord.Fits depth) := by
  cases kind <;> obtain ⟨r, hr, rfl⟩ := Option.map_eq_some_iff.1 h <;>
    exact (CacheRecord.of_read?_eq_some hr).1

/-- An access token that was read is read again as it is. -/
theorem restate_of_read? {kind : RecordKind} {depth : Nat} {tree : ParseTree}
    {r : AccessTokenRecord} (h : read? kind depth tree = some (.accessToken r)) :
    PersistentRecord.restate r = r := by
  cases kind with
  | accessToken =>
    obtain ⟨_, hr, heq⟩ := Option.map_eq_some_iff.1 h
    cases heq
    exact (CacheRecord.of_read?_eq_some hr).2
  | _ =>
    obtain ⟨_, _, heq⟩ := Option.map_eq_some_iff.1 h
    cases heq

end Entry

/-! ### Changes of a store -/

namespace Store

/-- Stores a record in the bucket of its kind. -/
def put (s : Store) : Entry → Store
  | .accessToken r => s.putAccessToken r
  | .refreshToken r => s.putRefreshToken r
  | .idToken r => s.putIdToken r
  | .account r => s.putAccount r
  | .appMetadata r => s.putAppMetadata r

variable {s : Store} {e : Entry}

/-- Putting a record leaves the unrecognized sections alone. -/
theorem other_put (s : Store) (e : Entry) : (s.put e).other = s.other := by
  cases e <;> rfl

/-- A condition on every record is kept if the new record satisfies it. -/
theorem Every.put {P : {α : Type} → [CacheRecord α] → α → Prop} (h : s.Every P)
    (he : e.Satisfies P) : (s.put e).Every P := by
  cases e with
  | accessToken r => exact { h with accessTokens := Bucket.forall_values_put h.accessTokens he }
  | refreshToken r => exact { h with refreshTokens := Bucket.forall_values_put h.refreshTokens he }
  | idToken r => exact { h with idTokens := Bucket.forall_values_put h.idTokens he }
  | account r => exact { h with accounts := Bucket.forall_values_put h.accounts he }
  | appMetadata r => exact { h with appMetadata := Bucket.forall_values_put h.appMetadata he }

/-- A store still fits into a document after a record was put that does. -/
theorem Fits.put (h : s.Fits) (he : e.Satisfies (CacheRecord.Fits recordDepth)) :
    (s.put e).Fits := by
  refine (h.every.put he).fits ?_ ?_
  · rw [other_put]
    exact h.unrecognized
  · rw [other_put]
    exact h.shallow

/-- Access tokens are still read as they are after one was put that is. -/
theorem Plain.put (h : s.Plain) (he : ∀ r, e = .accessToken r → PersistentRecord.restate r = r) :
    (s.put e).Plain := by
  cases e with
  | accessToken r => exact Bucket.forall_values_put h (he r rfl)
  | _ => exact h

/-- Numbers are still read as they were written after a record was put in which they are. -/
theorem Faithful.put (h : s.Faithful) (he : e.Satisfies CacheRecord.Faithful) :
    (s.put e).Faithful :=
  ⟨h.records.put he, other_put s e ▸ h.other⟩

/-- What is done with the store of a cache. -/
inductive Change where
  /-- A record is stored. -/
  | put (e : Entry)
  /-- The tokens of a response are saved. -/
  | save (i : Issued)
  /-- An account is removed. -/
  | remove (homeAccountId : String) (aliases : List String)

namespace Change

/-- The store after a change. -/
def apply : Change → Store → Store
  | put e, s => s.put e
  | save i, s => s.saveResponse i
  | remove homeAccountId aliases, s => (s.removeAccount homeAccountId aliases).2

/-- A change stores only what can stand in a document: a record that was read, with no more than the
125 containers around each other that a record may have there, and whose numbers are read as they
were written; or tokens for scopes that are words. -/
inductive Sound : Change → Prop where
  | put {kind : RecordKind} {tree : ParseTree} {e : Entry}
    (read : Entry.read? kind recordDepth tree = some e)
    (faithful : e.Satisfies CacheRecord.Faithful) : Sound (put e)
  | save {i : Issued} (requested : ∀ name ∈ i.context.requestedScopes.names, IsWord name)
    (granted : ∀ name ∈ i.response.scopes.names, IsWord name) : Sound (save i)
  | remove (homeAccountId : String) (aliases : List String) : Sound (remove homeAccountId aliases)

end Change

end Store

/-! ### Caches -/

namespace TokenCache

/-- A step of a cache: its store is changed, or it is saved. -/
inductive Step where
  | change (ch : Store.Change)
  | save

/-- The cache after a step. -/
def step (c : TokenCache) : Step → TokenCache
  | .change ch => c.modify ch.apply
  | .save => c.save.2

/-- The cache after some steps. -/
def run (c : TokenCache) (steps : List Step) : TokenCache := steps.foldl step c

/-- The cache can be loaded from what it saves: its store and the document that it knows can be
read, and all their numbers are read as they were written. -/
structure Reproducible (c : TokenCache) : Prop where
  documented : c.Documented
  faithful : c.store.Faithful
  baseline : ∀ b, c.baseline = some b → b.Faithful

variable {c : TokenCache}

/-- What is loaded can be reproduced if its numbers are read as they were written. -/
theorem reproducible_of_load? {text : String} (hload : load? text = some c)
    (hfaithful : c.store.Faithful) : c.Reproducible := by
  refine ⟨documented_of_load? hload, hfaithful, ?_⟩
  intro b hb
  obtain ⟨s, _, rfl⟩ := Option.map_eq_some_iff.1 hload
  cases hb
  exact hfaithful

/-- What is saved is read as it is. -/
theorem Reproducible.document (h : c.Reproducible) :
    c.document.Fits ∧ c.document.Plain ∧ c.document.Faithful := by
  obtain ⟨⟨hfits, hplain, hbaseline⟩, hfaithful, hbaseline'⟩ := h
  unfold TokenCache.document
  cases hb : c.baseline with
  | none => exact ⟨hfits, hplain, hfaithful⟩
  | some b =>
    exact ⟨(hbaseline b hb).merge hfits, hplain.merge b, (hbaseline' b hb).merge hfaithful⟩

/-- A cache can still be reproduced after it was handed out. -/
theorem Reproducible.save (h : c.Reproducible) : c.save.2.Reproducible := by
  refine ⟨h.documented.save, h.document.2.2, ?_⟩
  intro b hb
  cases hb
  exact h.document.2.2

/-- A change that stores only what a document can say keeps the cache reproducible. -/
theorem Reproducible.change (h : c.Reproducible) {ch : Store.Change} (hch : ch.Sound) :
    (c.modify ch.apply).Reproducible := by
  obtain ⟨⟨hfits, hplain, hbaseline⟩, hfaithful, hbaseline'⟩ := h
  cases hch with
  | put hread hnew =>
    refine ⟨⟨hfits.put (Entry.fits_of_read? hread), hplain.put ?_, hbaseline⟩, hfaithful.put hnew,
      hbaseline'⟩
    rintro r rfl
    exact Entry.restate_of_read? hread
  | @save i hrequested hgranted =>
    have hwords := Issued.isWord_of_mem_target hrequested hgranted
    exact ⟨⟨hfits.saveResponse i, hplain.saveResponse hwords, hbaseline⟩,
      hfaithful.saveResponse i, hbaseline'⟩
  | remove homeAccountId aliases =>
    exact ⟨⟨hfits.withoutAccount homeAccountId aliases, hplain.withoutAccount homeAccountId aliases,
      hbaseline⟩, hfaithful.withoutAccount homeAccountId aliases, hbaseline'⟩

/-- Whatever is done with a reproducible cache, it stays one. -/
theorem Reproducible.run (h : c.Reproducible) {steps : List Step}
    (hsteps : ∀ ch, .change ch ∈ steps → ch.Sound) : (c.run steps).Reproducible := by
  induction steps generalizing c with
  | nil => exact h
  | cons step rest ih =>
    have hrest : ∀ ch, .change ch ∈ rest → ch.Sound := fun ch hch =>
      hsteps ch (List.mem_cons_of_mem _ hch)
    cases step with
    | change ch => exact ih (h.change (hsteps ch List.mem_cons_self)) hrest
    | save => exact ih h.save hrest

/-- **Saving and loading.** A cache is loaded, and its store is changed and saved any number of
times, where what is stored could stand in a document and all numbers are read as they were written.
Then what is saved can be loaded, loading it gives the cache that saving left in memory, and that
cache is saved as the same text. -/
theorem saved_run_reloads {text : String} (hload : load? text = some c)
    (hfaithful : c.store.Faithful) {steps : List Step}
    (hsteps : ∀ ch, .change ch ∈ steps → ch.Sound) :
    let saved := (c.run steps).save
    load? saved.1 = some saved.2 ∧ saved.2.save.1 = saved.1 := by
  intro saved
  obtain ⟨hfits, hplain, hnumbers⟩ :=
    ((reproducible_of_load? hload hfaithful).run hsteps).document
  constructor
  · have hread : (c.run steps).document.reread = (c.run steps).document :=
      hnumbers.reread_eq hplain
    rw [load?_save hfits, hread]
    rfl
  · exact congrArg Store.text (Store.merge_self (c.run steps).document)

/-! ### A cache that other programs share -/

namespace Sample

/-- A field with an object that holds a double. -/
def unknown : Json.Members where
  entries := [("x", .object [("y", .number (.double ⟨false, 0x3FF8000000000000⟩))])]
  canonical := by
    refine .object (by decide) (List.forall_mem_singleton.2 (.object (by decide) ?_))
    exact List.forall_mem_singleton.2 (.number _)

/-- A store with an account under a key that it does not derive, with fields and a section that are
not recognized. -/
def shared : Store :=
  { Store.empty with
    accounts := Dict.empty.insert "uid-1.utid-login.windows.net-utid"
      ⟨"uid-1.utid", "login.windows.net", "utid", none, none, none, none, none, unknown⟩
    other := unknown }

/-- What is known about an application. -/
def metadata : AppMetadataRecord := ⟨"client", "login.windows.net", some "1", .empty⟩

/-- The cache is saved in between and changed in all ways. -/
def steps : List Step :=
  [.change (.save (Issued.Sample.response "uid-1.utid" "login.windows.net")), .save,
    .change (.put (.appMetadata metadata)),
    .change (.remove "uid-1.utid" ["login.windows.net"])]

end Sample

/-- The cache can be loaded, the double is read as it was written, and so is all that is saved in the
end. -/
theorem saved_run_reloads_shared :
    let c : TokenCache := ⟨Sample.shared, some Sample.shared, false⟩
    load? Sample.shared.text = some c ∧ c.store.Faithful ∧
      (∀ ch, .change ch ∈ Sample.steps → ch.Sound) ∧
      load? (c.run Sample.steps).save.1 = some (c.run Sample.steps).save.2 ∧
      (c.run Sample.steps).save.2.save.1 = (c.run Sample.steps).save.1 := by
  intro c
  have hnone {α : Type} {P : α → Prop} : ∀ r ∈ (Dict.empty : Dict α).values, P r :=
    List.forall_mem_nil P
  have hunknown : Sample.unknown.Faithful := by
    refine .object (List.forall_mem_singleton.2 (.object (List.forall_mem_singleton.2 ?_)))
    exact .number (by decide +kernel)
  have hfaithful : Sample.shared.Faithful :=
    ⟨⟨hnone, hnone, hnone, List.forall_mem_singleton.2 hunknown, hnone⟩, hunknown⟩
  have hfits : Sample.shared.Fits := by
    refine ⟨hnone, hnone, hnone, List.forall_mem_singleton.2 ⟨?_, ?_⟩, hnone, ?_, ?_⟩
    all_goals decide
  have hload : load? Sample.shared.text = some c := by
    rw [load?, parse?_text hfits, hfaithful.reread_eq hnone]
    rfl
  have hsteps : ∀ ch, .change ch ∈ Sample.steps → ch.Sound := by
    intro ch hch
    simp only [Sample.steps, List.mem_cons, Step.change.injEq, reduceCtorEq, List.not_mem_nil,
      or_false, false_or] at hch
    rcases hch with rfl | rfl | rfl
    · refine .save ?_ (List.forall_mem_nil _)
      intro name hname
      have hread : name ∈ (Scopes.ofText "read").names := hname
      exact isWord_of_mem_words (Scopes.mem_names_ofText.1 hread)
    · have hmetadata : CacheRecord.Faithful Sample.metadata :=
        CacheRecord.faithful_of_extra_eq_empty rfl
      have hfits : CacheRecord.Fits Store.recordDepth Sample.metadata :=
        Store.fits_of_extra_eq_empty rfl
      have hread : Entry.read? .appMetadata Store.recordDepth
          (ParseTree.ofValue (CacheRecord.toJson Sample.metadata).reread) =
            some (.appMetadata Sample.metadata) := by
        rw [Entry.read?, CacheRecord.read?_toJson hfits, hmetadata.reread_eq rfl, Option.map_some]
      exact .put hread hmetadata
    · exact .remove _ _
  exact ⟨hload, hfaithful, hsteps, saved_run_reloads hload hfaithful hsteps⟩

end TokenCache

end SilentAuth
