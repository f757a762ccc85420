import SilentAuth.Proofs.Cache.RoundTrip
import SilentAuth.Proofs.Cache.Valued

/-!
# What is not recognized survives

A store is loaded, changed and persisted. The records that a change stores have recognized fields
only, and they may stand where the loaded store has a record with others. It is the merge into the
loaded document that brings these back, at every depth, so the memory of a cache may forget them but
must not contradict them.

* `Bucket.DefersTo`, `Store.DefersTo`: a store that says of unrecognized fields what a loaded one
  says, or nothing.
* `Store.DefersTo.apply`, `TokenCache.run_defersTo`: changes keep this up.
* `Store.DefersTo.extra_merge`: the merge brings back what was forgotten.
* `Json.SurvivesIn`: the unrecognized sections of a document, and the unrecognized fields of the
  records that stayed under their keys, are those of another one.
* `TokenCache.unrecognized_survives`: so it is with the loaded text and the persisted document.
-/

namespace SilentAuth

variable {α : Type}

/-! ### Merging with nothing -/

/-- Nothing is replaced by no members. -/
theorem Json.Members.merge_empty (m : Members) : m.merge .empty = m := by
  apply ext_entries
  show mergeMembers m.entries [] = m.entries
  rw [mergeMembers]

namespace CacheRecord

variable [CacheRecord α] [LawfulCacheRecord α] {old update : α}

/-- The unrecognized fields of a merged record are those of the two records, merged. -/
theorem extra_merge (old update : α) :
    extra (merge old update) = (extra old).merge (extra update) :=
  LawfulCacheRecord.extra_withExtra update _

/-- Joining a record with recognized fields keeps the unrecognized ones. -/
theorem extra_merge_of_empty (h : extra update = .empty) :
    extra (merge old update) = extra old := by
  rw [extra_merge, h, Json.Members.merge_empty]

end CacheRecord

/-! ### Buckets -/

/-- What a bucket says of unrecognized fields under the keys of another one is nothing, or what the
other one says. -/
def Bucket.DefersTo [CacheRecord α] (bucket loaded : Bucket α) : Prop :=
  ∀ key r l, bucket.find? key = some r → loaded.find? key = some l →
    CacheRecord.extra r = .empty ∨ CacheRecord.extra r = CacheRecord.extra l

namespace Bucket.DefersTo

variable [CacheRecord α] {bucket loaded : Bucket α}

theorem refl (bucket : Bucket α) : bucket.DefersTo bucket := by
  intro key r l hr hl
  rw [hr] at hl
  cases hl
  exact .inr rfl

/-- A bucket from which records were dropped still defers. -/
theorem filter (h : bucket.DefersTo loaded) (keep : String → α → Bool) :
    Bucket.DefersTo (Dict.filter bucket keep) loaded := by
  intro key r l hr hl
  exact h key r l (Dict.find?_filter_eq_some_iff.1 hr).1 hl

/-- A record with recognized fields may stand under any key. -/
theorem insert (h : bucket.DefersTo loaded) {key : String} {new : α}
    (hnew : ∀ l, loaded.find? key = some l →
      CacheRecord.extra new = .empty ∨ CacheRecord.extra new = CacheRecord.extra l) :
    Bucket.DefersTo (Dict.insert bucket key new) loaded := by
  intro key' r l hr hl
  by_cases hkey : key' = key
  · subst hkey
    rw [Dict.find?_insert_self, Option.some.injEq] at hr
    subst hr
    exact hnew l hl
  · rw [Dict.find?_insert_of_ne _ hkey] at hr
    exact h key' r l hr hl

/-- A bucket still defers after a record without unrecognized fields was put. -/
theorem put (h : bucket.DefersTo loaded) {new : α} (hnew : CacheRecord.extra new = .empty) :
    (bucket.put new).DefersTo loaded :=
  (h.filter _).insert fun _ _ => .inl hnew

/-- The record under the key of a new one is joined with it, and keeps its unrecognized fields. -/
theorem upsert [LawfulCacheRecord α] (h : bucket.DefersTo loaded) {new : α}
    (hnew : CacheRecord.extra new = .empty) : (bucket.upsert new).DefersTo loaded := by
  apply h.insert
  intro l hl
  cases hpresent : bucket.find? (CacheRecord.key new) with
  | none => exact .inl hnew
  | some present =>
    rw [Option.elim_some, CacheRecord.extra_merge_of_empty hnew]
    exact h _ present l hpresent hl

/-- Merged into the other bucket, a record has the unrecognized fields of the record there. -/
theorem extra_merge [LawfulCacheRecord α] (h : bucket.DefersTo loaded) {key : String} {r l : α}
    (hr : (loaded.merge bucket).find? key = some r) (hl : loaded.find? key = some l) :
    CacheRecord.extra r = CacheRecord.extra l := by
  rw [find?_merge, Option.map_eq_some_iff] at hr
  obtain ⟨u, hu, rfl⟩ := hr
  rw [hl, Option.elim_some]
  rcases h key u l hu hl with hempty | hsame
  · exact CacheRecord.extra_merge_of_empty hempty
  · rw [CacheRecord.extra_merge, hsame, Json.Members.merge_self]

end Bucket.DefersTo

/-! ### Stores -/

namespace Store

/-- What a store says of unrecognized fields under the keys of a loaded one is nothing, or what the
loaded one says; and it has the unrecognized sections of the loaded one. -/
structure DefersTo (s loaded : Store) : Prop where
  accessTokens : s.accessTokens.DefersTo loaded.accessTokens
  refreshTokens : s.refreshTokens.DefersTo loaded.refreshTokens
  idTokens : s.idTokens.DefersTo loaded.idTokens
  accounts : s.accounts.DefersTo loaded.accounts
  appMetadata : s.appMetadata.DefersTo loaded.appMetadata
  other : s.other = loaded.other

/-- A change stores recognized fields only. Tokens are saved that way, and removing an account stores
nothing. -/
inductive Change.Recognized : Change → Prop where
  | put {e : Entry} (bare : e.extra = .empty) : Recognized (put e)
  | save (i : Issued) : Recognized (save i)
  | remove (homeAccountId : String) (aliases : List String) :
    Recognized (remove homeAccountId aliases)

namespace DefersTo

variable {s loaded : Store}

theorem refl (s : Store) : s.DefersTo s :=
  ⟨.refl _, .refl _, .refl _, .refl _, .refl _, rfl⟩

/-- A store still defers after a record without unrecognized fields was put. -/
theorem put (h : s.DefersTo loaded) {e : Entry} (hbare : e.extra = .empty) :
    (s.put e).DefersTo loaded := by
  cases e with
  | accessToken r => exact { h with accessTokens := h.accessTokens.put hbare }
  | refreshToken r => exact { h with refreshTokens := h.refreshTokens.put hbare }
  | idToken r => exact { h with idTokens := h.idTokens.put hbare }
  | account r => exact { h with accounts := h.accounts.put hbare }
  | appMetadata r => exact { h with appMetadata := h.appMetadata.put hbare }

/-- A store still defers after a response was saved, whose records have no unrecognized fields. -/
theorem saveResponse (h : s.DefersTo loaded) (i : Issued) : (s.saveResponse i).DefersTo loaded := by
  rw [saveResponse_eq]
  constructor
  case accessTokens => exact (h.accessTokens.filter _).put rfl
  case refreshTokens =>
    cases i.response.refreshToken with
    | none => exact h.refreshTokens
    | some secret => exact h.refreshTokens.put rfl
  case idTokens =>
    cases i.response.idToken with
    | none => exact h.idTokens
    | some secret => exact h.idTokens.put rfl
  case accounts =>
    dsimp only
    split
    · exact h.accounts
    · exact h.accounts.upsert rfl
  case appMetadata => exact h.appMetadata.put rfl
  case other => exact h.other

/-- A store still defers after an account was removed. -/
theorem withoutAccount (h : s.DefersTo loaded) (homeAccountId : String) (aliases : List String) :
    (s.withoutAccount homeAccountId aliases).DefersTo loaded where
  accessTokens := h.accessTokens.filter _
  refreshTokens := h.refreshTokens.filter _
  idTokens := h.idTokens.filter _
  accounts := h.accounts.filter _
  appMetadata := h.appMetadata
  other := h.other

/-- A change that stores recognized fields only does not contradict what was loaded. -/
theorem apply (h : s.DefersTo loaded) {ch : Change} (hch : ch.Recognized) :
    (ch.apply s).DefersTo loaded := by
  cases hch with
  | put hbare => exact h.put hbare
  | save i => exact h.saveResponse i
  | remove homeAccountId aliases => exact h.withoutAccount homeAccountId aliases

/-- Merged into the loaded store, a record has the unrecognized fields of the loaded record. -/
theorem extra_merge (h : s.DefersTo loaded) {kind : RecordKind} {key : String} {e l : Entry}
    (he : (loaded.merge s).entryAt? kind key = some e) (hl : loaded.entryAt? kind key = some l) :
    e.extra = l.extra := by
  cases kind <;> obtain ⟨r, hr, rfl⟩ := Option.map_eq_some_iff.1 he <;>
    obtain ⟨r', hr', rfl⟩ := Option.map_eq_some_iff.1 hl
  case accessToken => exact h.accessTokens.extra_merge hr hr'
  case refreshToken => exact h.refreshTokens.extra_merge hr hr'
  case idToken => exact h.idTokens.extra_merge hr hr'
  case account => exact h.accounts.extra_merge hr hr'
  case appMetadata => exact h.appMetadata.extra_merge hr hr'

/-- The unrecognized sections of the document that was loaded stay when the store is merged into
it. -/
theorem other_merge (h : s.DefersTo loaded) : (loaded.merge s).other = loaded.other := by
  show loaded.other.merge s.other = loaded.other
  rw [h.other, Json.Members.merge_self]

end DefersTo

/-! ### Documents -/

/-- The unrecognized sections of a document are those of the store. -/
theorem member?_toJson_of_notMem (s : Store) {name : String} (hname : name ∉ sectionNames) :
    s.toJson.member? name = s.other.find? name := by
  have hsections : Assoc.find? name s.sections = none := by
    rw [← Option.not_isSome_iff_eq_none, Assoc.find?_isSome_iff]
    exact hname
  show Assoc.find? name (s.sections ++ s.other.entries) = _
  rw [Assoc.find?_append, hsections]
  rfl

end Store

/-- The unrecognized fields of a written record are those of the record. -/
theorem CacheRecord.member?_toJson_of_notMem [CacheRecord α] [PersistentRecord α] (r : α)
    {name : String} (hname : name ∉ recognized α) :
    (toJson r).member? name = (extra r).find? name := by
  have hfields : Assoc.find? name (fields r) = none := by
    rw [← Option.not_isSome_iff_eq_none, Assoc.find?_isSome_iff]
    intro hmem
    exact hname ((PersistentRecord.names_sublist r).subset hmem)
  show Assoc.find? name (fields r ++ (extra r).entries) = _
  rw [Assoc.find?_append, hfields]
  rfl

/-- A member that is not recognized is an unrecognized field of the record. -/
theorem Entry.member?_toJson_of_notMem {e : Entry} {name : String}
    (hname : name ∉ e.kind.recognized) : e.toJson.member? name = e.extra.find? name := by
  cases e with
  | accessToken r => exact CacheRecord.member?_toJson_of_notMem r hname
  | refreshToken r => exact CacheRecord.member?_toJson_of_notMem r hname
  | idToken r => exact CacheRecord.member?_toJson_of_notMem r hname
  | account r => exact CacheRecord.member?_toJson_of_notMem r hname
  | appMetadata r => exact CacheRecord.member?_toJson_of_notMem r hname

/-- What a document says and is not recognized survives in another one: all its unrecognized sections,
and in each record that has the key of a record of it all unrecognized fields of that record. -/
structure Json.SurvivesIn (loaded saved : Json) : Prop where
  sections : ∀ name ∉ Store.sectionNames, saved.member? name = loaded.member? name
  fields : ∀ (kind : RecordKind) (key : String) (old new : Json),
    (loaded.member? kind.sectionName).bind (Json.member? key) = some old →
    (saved.member? kind.sectionName).bind (Json.member? key) = some new →
    ∀ name ∉ kind.recognized, new.member? name = old.member? name

/-! ### Caches -/

namespace TokenCache

variable {c : TokenCache}

/-- Changes that store recognized fields only leave the baseline as it is, and the store does not
contradict what was loaded. -/
theorem run_defersTo {loaded : Store} (h : c.store.DefersTo loaded) {changes : List Store.Change}
    (hchanges : ∀ ch ∈ changes, ch.Recognized) :
    (c.run (changes.map .change)).store.DefersTo loaded ∧
      (c.run (changes.map .change)).baseline = c.baseline := by
  induction changes generalizing c with
  | nil => exact ⟨h, rfl⟩
  | cons ch rest ih =>
    obtain ⟨hch, hrest⟩ := List.forall_mem_cons.1 hchanges
    exact ih (c := c.modify ch.apply) (h.apply hch) hrest

/-- **What is not recognized survives.** A text is loaded, tokens are saved and accounts are removed
any number of times, and the cache is persisted. Then what the loaded text says and is not recognized
survives in the document that is persisted. What the text says is its value, in which the last of
several members with one key counts; a text without a value is blank. -/
theorem unrecognized_survives {text : String} (hload : load? text = some c)
    {changes : List Store.Change} (hchanges : ∀ ch ∈ changes, ch.Recognized) :
    allBlank text = true ∨ ∃ loaded saved : Json, Json.read? text = some loaded ∧
      (c.run (changes.map .change)).save.1 = saved.text ∧ loaded.SurvivesIn saved := by
  obtain ⟨s, hs, rfl⟩ := Option.map_eq_some_iff.1 hload
  obtain ⟨hstore, hbaseline⟩ := run_defersTo (c := ⟨s, some s, false⟩) (.refl s) hchanges
  rcases exists_value_of_parse? hs with hblank | ⟨tree, loaded, hread, hvalue, hloaded⟩
  · exact .inl hblank
  set changed := run ⟨s, some s, false⟩ (changes.map .change)
  have hdocument : changed.document = s.merge changed.store := by
    rw [document, hbaseline]
    rfl
  refine .inr ⟨loaded, changed.document.toJson, hloaded, rfl, ?_, ?_⟩
  · intro name hname
    rw [Store.member?_toJson_of_notMem _ hname, Store.member?_of_value hread hvalue hname,
      hdocument, hstore.other_merge]
  · intro kind key old new hold hnew name hname
    obtain ⟨l, hl, hextra⟩ := Store.exists_entryAt?_of_value hread hvalue hold
    rw [Store.member?_member?_toJson, Option.map_eq_some_iff] at hnew
    obtain ⟨e, he, rfl⟩ := hnew
    have hkind : e.kind = kind := Store.kind_of_entryAt? he
    rw [hdocument] at he
    rw [Entry.member?_toJson_of_notMem (hkind ▸ hname), hstore.extra_merge he hl,
      hextra name hname]

/-! ### Records with nested fields -/

namespace Sample

/-- A field with an object in it. -/
def nested : Json.Members where
  entries := [("x", .object [("y", .bool true)])]
  canonical := by
    refine .object (by decide) (List.forall_mem_singleton.2 (.object (by decide) ?_))
    exact List.forall_mem_singleton.2 (.bool true)

/-- The tokens that were saved before. -/
def issued : Issued := Issued.Sample.response "uid.utid" "login.windows.net"

/-- A store with an access token and an account of `issued`, both with a field that is not
recognized, and with such a section. -/
def overlaid : Store :=
  { Store.empty with
    accessTokens := Dict.empty.insert (CacheRecord.key issued.accessTokenRecord)
      (CacheRecord.withExtra issued.accessTokenRecord nested)
    accounts := Dict.empty.insert (CacheRecord.key issued.accountRecord)
      (CacheRecord.withExtra issued.accountRecord nested)
    other := nested }

/-- The tokens are saved again, and another account is removed. -/
def changes : List Store.Change := [.save issued, .remove "other" ["login.windows.net"]]

end Sample

/-- The records of the tokens are replaced by new ones, which take over the fields. -/
theorem unrecognized_survives_replaced :
    let s := Sample.overlaid.reread
    let c : TokenCache := ⟨s, some s, false⟩
    load? Sample.overlaid.text = some c ∧ (∀ ch ∈ Sample.changes, ch.Recognized) ∧
      (allBlank Sample.overlaid.text = true ∨ ∃ loaded saved : Json,
        Json.read? Sample.overlaid.text = some loaded ∧
        (c.run (Sample.changes.map .change)).save.1 = saved.text ∧ loaded.SurvivesIn saved) := by
  intro s c
  have hnone {α : Type} {P : α → Prop} : ∀ r ∈ (Dict.empty : Dict α).values, P r :=
    List.forall_mem_nil P
  have hfits : Sample.overlaid.Fits := by
    refine ⟨List.forall_mem_singleton.2 ⟨?_, ?_⟩, hnone, hnone,
      List.forall_mem_singleton.2 ⟨?_, ?_⟩, hnone, ?_, ?_⟩
    all_goals decide
  have hload : load? Sample.overlaid.text = some c := by
    rw [load?, parse?_text hfits]
    rfl
  have hchanges : ∀ ch ∈ Sample.changes, ch.Recognized := by
    intro ch hch
    simp only [Sample.changes, List.mem_cons, List.not_mem_nil, or_false] at hch
    rcases hch with rfl | rfl
    · exact .save _
    · exact .remove _ _
  exact ⟨hload, hchanges, unrecognized_survives hload hchanges⟩

end TokenCache

end SilentAuth
