import SilentAuth.Proofs.Cache.Steady
import SilentAuth.Proofs.Cache.Sweep

/-!
# Records under the keys that they derive

Records are stored under the keys that they derive, and merging and joining keep them there. Reading
the document of a store does so for steady records. So a cache that comes about from nothing, however
often it is saved and loaded, holds a record under another key than the one that it derives only where
a record was stored that is not steady.

* `Store.exists_entry_of_parse?_text`: what is read from the text of a store is read from the records
  of the store, under their keys.
* `Store.Keyed`: stores of steady records under their keys.
* `TokenCache.Evolved`: the caches that come about from a new one.
* `TokenCache.Evolved.wellKeyed`: the records of such a cache are stored under the keys that they
  derive.
-/

namespace SilentAuth

/-- Members that are missing on both sides are missing after a merge. -/
theorem Json.Members.find?_merge_eq_none {old update : Members} {name : String}
    (hold : old.find? name = none) (hupdate : update.find? name = none) :
    (old.merge update).find? name = none := by
  show Assoc.find? name (mergeMembers old.entries update.entries) = none
  have hnone : Assoc.find? name update.entries = none := hupdate
  rw [mergeMembers_eq_mergeWith, Assoc.find?_mergeWith _ update.ascending, hnone]
  exact hold

/-! ### Entries after the changes of a store -/

namespace Store

variable {s s' old update : Store} {kind : RecordKind} {key : String} {e e' : Entry}

/-- After a record was stored, an entry is that record or one from before. -/
theorem entryAt?_put (h : (s.put e).entryAt? kind key = some e') :
    e' = e ∧ e.key = key ∨ s.entryAt? kind key = some e' := by
  have hbucket {α : Type} [CacheRecord α] (entry : α → Entry)
      (hentry : ∀ r, (entry r).key = CacheRecord.key r) {bucket : Bucket α} {r : α}
      (h : ((bucket.put r).find? key).map entry = some e') :
      e' = entry r ∧ (entry r).key = key ∨ (bucket.find? key).map entry = some e' := by
    by_cases hkey : key = (entry r).key
    · subst hkey
      rw [hentry, Bucket.entry_put_self] at h
      exact .inl ⟨(Option.some.inj h).symm, rfl⟩
    · exact .inr ((Bucket.entry_put_of_ne entry hentry hkey).1 h).1
  cases e with
  | accessToken r =>
    cases kind with
    | accessToken => exact hbucket .accessToken (fun _ => rfl) h
    | _ => exact .inr h
  | refreshToken r =>
    cases kind with
    | refreshToken => exact hbucket .refreshToken (fun _ => rfl) h
    | _ => exact .inr h
  | idToken r =>
    cases kind with
    | idToken => exact hbucket .idToken (fun _ => rfl) h
    | _ => exact .inr h
  | account r =>
    cases kind with
    | account => exact hbucket .account (fun _ => rfl) h
    | _ => exact .inr h
  | appMetadata r =>
    cases kind with
    | appMetadata => exact hbucket .appMetadata (fun _ => rfl) h
    | _ => exact .inr h

/-- A merged entry derives the key of the newer one, and it is steady if it is joined from steady
ones. -/
theorem entryAt?_merge (h : (old.merge update).entryAt? kind key = some e) :
    ∃ new, update.entryAt? kind key = some new ∧ e.key = new.key ∧
      (new.Steady → (∀ o, old.entryAt? kind key = some o → o.Steady) → e.Steady) := by
  have hbucket {α : Type} [CacheRecord α] [LawfulCacheRecord α] (entry : α → Entry)
      (hkey : ∀ r, (entry r).key = CacheRecord.key r)
      (hjoin : ∀ o r, (entry o).Steady → (entry r).Steady → (entry (CacheRecord.merge o r)).Steady)
      {old update : Bucket α} (h : ((old.merge update).find? key).map entry = some e) :
      ∃ new, (update.find? key).map entry = some new ∧ e.key = new.key ∧
        (new.Steady → (∀ o, (old.find? key).map entry = some o → o.Steady) → e.Steady) := by
    obtain ⟨r, hr, rfl⟩ := Option.map_eq_some_iff.1 h
    rw [Bucket.find?_merge] at hr
    obtain ⟨new, hnew, rfl⟩ := Option.map_eq_some_iff.1 hr
    refine ⟨entry new, by rw [hnew, Option.map_some], ?_⟩
    cases hold : old.find? key with
    | none => exact ⟨rfl, fun hsteady _ => hsteady⟩
    | some o =>
      refine ⟨?_, fun hsteady hsteady' => hjoin o new (hsteady' _ (by rw [Option.map_some])) hsteady⟩
      rw [hkey, hkey]
      exact LawfulCacheRecord.key_withExtra new _
  cases kind with
  | accessToken => exact hbucket .accessToken (fun _ => rfl) (fun _ _ _ hr => hr) h
  | refreshToken =>
    exact hbucket .refreshToken (fun _ => rfl)
      (fun o r ho hr => Json.Members.find?_merge_eq_none ho hr) h
  | idToken => exact hbucket .idToken (fun _ => rfl) (fun _ _ _ _ => trivial) h
  | account => exact hbucket .account (fun _ => rfl) (fun _ _ _ _ => trivial) h
  | appMetadata => exact hbucket .appMetadata (fun _ => rfl) (fun _ _ _ _ => trivial) h

/-- What is read from the text of a store is read from the records of the store, under their keys. -/
theorem exists_entry_of_parse?_text (h : TokenCache.parse? s.text = some s')
    (he : s'.entryAt? kind key = some e') :
    ∃ e, s.entryAt? kind key = some e ∧
      Entry.read? kind recordDepth (ParseTree.ofValue e.toJson.reread) = some e' := by
  have hpos : 0 < Json.depthLimit := by decide
  have hbucket {α : Type} [CacheRecord α] (entry : α → Entry)
      (hentry : ∀ r, (entry r).toJson = CacheRecord.toJson r) {name : String}
      {bucket read : Bucket α} (hsection : Assoc.find? name s.sections = some (bucketJson bucket))
      (hread : s.written.defaulted? name .empty
        (ParseTree.dict? (Json.depthLimit - 1) CacheRecord.read?) = some read)
      (he : (read.find? key).map entry = some e') :
      ∃ e, (bucket.find? key).map entry = some e ∧ (CacheRecord.read? (α := α) recordDepth
        (ParseTree.ofValue e.toJson.reread)).map entry = some e' := by
    obtain ⟨r', hr', rfl⟩ := Option.map_eq_some_iff.1 he
    have hmem := Assoc.mem_of_find?_eq_some hsection
    have hfind := Bucket.find?_of_dict?_bucketJson (dict?_of_section hmem hread) key
    rw [hr', Option.map_some] at hfind
    obtain ⟨r, hr, hrecord⟩ := Option.map_eq_some_iff.1 hfind.symm
    refine ⟨entry r, by rw [hr, Option.map_some], ?_⟩
    rw [hentry]
    exact congrArg (Option.map entry) hrecord
  rw [TokenCache.parse?_text_eq] at h
  simp only [ofTree?, members?_toJson hpos, Option.bind_eq_bind, Option.bind_some,
    Option.bind_eq_some_iff, Option.pure_def, Option.some.injEq] at h
  obtain ⟨_, haccess, _, hrefresh, _, hid, _, haccounts, _, happ, _, _, rfl⟩ := h
  cases kind with
  | accessToken => exact hbucket .accessToken (fun _ => rfl) rfl haccess he
  | refreshToken => exact hbucket .refreshToken (fun _ => rfl) rfl hrefresh he
  | idToken => exact hbucket .idToken (fun _ => rfl) rfl hid he
  | account => exact hbucket .account (fun _ => rfl) rfl haccounts he
  | appMetadata => exact hbucket .appMetadata (fun _ => rfl) rfl happ he

/-! ### Stores of steady records under their keys -/

/-- Each record is steady and stored under the key that it derives, unless its key is exempt. -/
def Keyed (exempt : RecordKind → String → Prop) (s : Store) : Prop :=
  ∀ kind key e, s.entryAt? kind key = some e → exempt kind key ∨ e.key = key ∧ e.Steady

variable {exempt : RecordKind → String → Prop}

/-- The empty store has no record under a key that is not its own. -/
theorem keyed_empty : Keyed exempt empty := by
  intro kind key e h
  cases kind <;> cases h

/-- Records stay under their keys when one is put that is steady, or whose key is exempt. -/
theorem Keyed.put (h : s.Keyed exempt) (he : exempt e.kind e.key ∨ e.Steady) :
    (s.put e).Keyed exempt := by
  intro kind key e' he'
  rcases entryAt?_put he' with ⟨rfl, rfl⟩ | hbefore
  · obtain rfl := kind_of_entryAt? he'
    exact he.imp_right fun hsteady => ⟨rfl, hsteady⟩
  · exact h kind key e' hbefore

/-- Records stay under their keys when a response is saved whose records are steady, or have
exempt keys. -/
theorem Keyed.saveResponse (h : s.Keyed exempt) {i : Issued}
    (hwritten : ∀ kind w, i.written? kind = some w → exempt kind w.key ∨ w.Steady) :
    (s.saveResponse i).Keyed exempt := by
  intro kind key e he
  by_cases hself : ∃ w, i.written? kind = some w ∧ key = w.key
  · obtain ⟨w, hw, rfl⟩ := hself
    by_cases hkind : kind = .account
    · -- the account was joined with the one that stood under its key
      subst hkind
      obtain ⟨joined, hjoined, hbare⟩ := entryAt?_saveResponse_self (s := s) hw
      obtain rfl : e = joined := Option.some.inj (he.symm.trans hjoined)
      obtain ⟨r, _, rfl⟩ := Option.map_eq_some_iff.1 he
      refine .inr ⟨?_, trivial⟩
      rw [← Entry.key_bare, hbare, Entry.key_bare]
    · rw [entryAt?_saveResponse_written hw hkind] at he
      cases he
      exact (hwritten kind e hw).imp_right fun hsteady => ⟨rfl, hsteady⟩
  · have hne : ∀ w, i.written? kind = some w → key ≠ w.key := fun w hw hkey =>
      hself ⟨w, hw, hkey⟩
    exact h kind key e ((entryAt?_saveResponse_of_ne hne).1 he).1

/-- Records stay under their keys when an account is removed, since nothing is written. -/
theorem Keyed.withoutAccount (h : s.Keyed exempt) (homeAccountId : String) (aliases : List String) :
    (s.withoutAccount homeAccountId aliases).Keyed exempt := fun kind key e he =>
  h kind key e (entryAt?_withoutAccount_iff.1 he).1

/-- Records stay under their keys when stores are merged, since a merged record derives the key of
the newer one. -/
theorem Keyed.merge (hold : old.Keyed exempt) (hupdate : update.Keyed exempt) :
    (old.merge update).Keyed exempt := by
  intro kind key e he
  by_cases hexempt : exempt kind key
  · exact .inl hexempt
  obtain ⟨new, hnew, hkey, hsteady⟩ := entryAt?_merge he
  obtain ⟨hnewKey, hnewSteady⟩ := (hupdate kind key new hnew).resolve_left hexempt
  refine .inr ⟨hkey.trans hnewKey, hsteady hnewSteady ?_⟩
  intro o ho
  exact ((hold kind key o ho).resolve_left hexempt).2

/-- What is read from the text of such a store is such a store. -/
theorem Keyed.of_parse?_text (h : s.Keyed exempt) (hread : TokenCache.parse? s.text = some s') :
    s'.Keyed exempt := by
  intro kind key e' he'
  obtain ⟨e, he, hrecord⟩ := exists_entry_of_parse?_text hread he'
  refine (h kind key e he).imp_right ?_
  rintro ⟨hkey, hsteady⟩
  exact ⟨(Entry.key_of_read? (kind_of_entryAt? he) hrecord hsteady).trans hkey,
    Entry.steady_of_read? hrecord⟩

/-- The records that a change stores. -/
inductive Change.Stores : Change → Entry → Prop where
  | put (e : Entry) : Stores (.put e) e
  | save {i : Issued} {kind : RecordKind} {w : Entry} (h : i.written? kind = some w) :
    Stores (.save i) w

/-- A change keeps every record under its key if the records that it stores are steady or stored
under exempt keys. -/
theorem Keyed.apply (h : s.Keyed exempt) {ch : Change}
    (hch : ∀ e, ch.Stores e → exempt e.kind e.key ∨ e.Steady) : (ch.apply s).Keyed exempt := by
  cases ch with
  | put e => exact h.put (hch e (.put e))
  | save i =>
    refine h.saveResponse ?_
    intro kind w hw
    obtain rfl := Issued.kind_of_written? hw
    exact hch w (.save hw)
  | remove homeAccountId aliases => exact h.withoutAccount homeAccountId aliases

end Store

/-! ### Caches that come about from nothing -/

namespace TokenCache

/-- The caches that come about from a new one by changes that store some records only, by saving, and
by loading a text that such a cache saved. -/
inductive Evolved (stored : Entry → Prop) : TokenCache → Prop
  | new : Evolved stored .new
  | change {c : TokenCache} (h : Evolved stored c) {ch : Store.Change}
    (hch : ∀ e, ch.Stores e → stored e) : Evolved stored (c.modify ch.apply)
  | save {c : TokenCache} (h : Evolved stored c) : Evolved stored c.save.2
  | load {c loaded : TokenCache} (h : Evolved stored c) (hload : load? c.save.1 = some loaded) :
    Evolved stored loaded

/-- The records in memory, and those of the document that was last loaded or saved, are steady and
stored under their keys, unless these are exempt. -/
structure Keyed (exempt : RecordKind → String → Prop) (c : TokenCache) : Prop where
  store : c.store.Keyed exempt
  baseline : ∀ b, c.baseline = some b → b.Keyed exempt

variable {exempt : RecordKind → String → Prop} {stored : Entry → Prop} {c : TokenCache}

/-- The document to persist is keyed as the cache is. -/
theorem Keyed.document (h : c.Keyed exempt) : c.document.Keyed exempt := by
  unfold TokenCache.document
  cases hb : c.baseline with
  | none => exact h.store
  | some b => exact (h.baseline b hb).merge h.store

/-- The cache of a document is keyed as the document is. -/
theorem keyed_of_document {s : Store} (h : s.Keyed exempt) :
    Keyed exempt ⟨s, some s, false⟩ := by
  refine ⟨h, ?_⟩
  intro b hb
  cases hb
  exact h

/-- The keys under which records were stored that are not steady. -/
def Unsteady (stored : Entry → Prop) (kind : RecordKind) (key : String) : Prop :=
  ∃ w, stored w ∧ ¬w.Steady ∧ w.kind = kind ∧ w.key = key

/-- A cache that comes about from nothing holds its records under their keys, except where an
unsteady one was stored. -/
theorem Evolved.keyed (h : Evolved stored c) : c.Keyed (Unsteady stored) := by
  induction h with
  | new => exact ⟨Store.keyed_empty, nofun⟩
  | change _ hch ih =>
    refine ⟨ih.store.apply ?_, ih.baseline⟩
    intro e he
    by_cases hsteady : e.Steady
    · exact .inr hsteady
    · exact .inl ⟨e, hch e he, hsteady, rfl, rfl⟩
  | save _ ih => exact keyed_of_document ih.document
  | load _ hload ih =>
    obtain ⟨s, hread, rfl⟩ := Option.map_eq_some_iff.1 hload
    exact keyed_of_document (ih.document.of_parse?_text hread)

/-- **Well-keyed caches.** Whatever is put into a cache that starts empty and removed from it, and
however often it is saved and loaded again, also from texts that other such caches saved: each record
is stored under the key that it derives, except under the key of a stored record that is not steady.
If only steady records are stored, no two records of a kind derive the same key. -/
theorem Evolved.wellKeyed (h : Evolved stored c) :
    (∀ kind key e, c.store.entryAt? kind key = some e →
      e.key = key ∨ ∃ w, stored w ∧ ¬w.Steady ∧ w.kind = kind ∧ w.key = key) ∧
    ((∀ w, stored w → w.Steady) → ∀ kind key key' e e', c.store.entryAt? kind key = some e →
      c.store.entryAt? kind key' = some e' → e.key = e'.key → key = key') := by
  have hkeys : ∀ kind key e, c.store.entryAt? kind key = some e →
      e.key = key ∨ Unsteady stored kind key := fun kind key e he =>
    (h.keyed.store kind key e he).symm.imp_left And.left
  refine ⟨hkeys, ?_⟩
  intro hsteady kind key key' e e' he he' hsame
  have hnone : ∀ kind key, ¬Unsteady stored kind key := by
    rintro kind key ⟨w, hw, hunsteady, _⟩
    exact hunsteady (hsteady w hw)
  rw [← (hkeys kind key e he).resolve_right (hnone kind key), hsame,
    (hkeys kind key' e' he').resolve_right (hnone kind key')]

/-! ### Scopes that are not words -/

namespace Sample

/-- A token for one scope, which was requested by this name. -/
def requesting (name : String) : Issued :=
  let i := Issued.Sample.response "uid.utid" "login.windows.net"
  { i with context.requestedScopes := Scopes.empty.insert name }

/-- A cache with two tokens, each for a scope whose name holds a blank. -/
def blanks : TokenCache :=
  (TokenCache.new.modify (·.saveResponse (requesting "b a"))).modify
    (·.saveResponse (requesting "a b"))

/-- A refresh token without a family, but with an unrecognized field of that name. -/
def branded : RefreshTokenRecord where
  homeAccountId := "uid.utid"
  environment := "login.windows.net"
  credentialType := .refreshToken
  clientId := "client"
  secret := "rt"
  familyId := none
  extra := ⟨[("family_id", .string "1")], .object (by decide)
    (List.forall_mem_singleton.2 (.string _))⟩

end Sample

/-- An entry of a loaded cache derives this key. -/
theorem exists_entry_of_key {text stored derived : String} {kind : RecordKind}
    (h : ((load? text).bind fun c => (c.store.entryAt? kind stored).map Entry.key) =
      some derived) :
    ∃ c e, load? text = some c ∧ c.store.entryAt? kind stored = some e ∧ e.key = derived := by
  obtain ⟨c, hc, hkey⟩ := Option.bind_eq_some_iff.1 h
  obtain ⟨e, he, rfl⟩ := Option.map_eq_some_iff.1 hkey
  exact ⟨c, e, hc, he, rfl⟩

/-- Read from their document, two tokens for scopes with blanks derive one key, under which only one of
them stands; and a refresh token is in a family, of which its key does not know. -/
theorem loaded_under_other_keys :
    (∃ c e e', load? Sample.blanks.save.1 = some c ∧
      c.store.entryAt? .accessToken "uid.utid-login.windows.net-accesstoken-client-utid-b a" =
        some e ∧
      c.store.entryAt? .accessToken "uid.utid-login.windows.net-accesstoken-client-utid-a b" =
        some e' ∧ e.key = e'.key) ∧
    ∃ c e, load? (TokenCache.new.modify (·.putRefreshToken Sample.branded)).save.1 = some c ∧
      c.store.entryAt? .refreshToken "uid.utid-login.windows.net-refreshtoken-client--" = some e ∧
      e.key ≠ "uid.utid-login.windows.net-refreshtoken-client--" := by
  constructor
  · have hstored : ((load? Sample.blanks.save.1).bind fun c => (c.store.entryAt? .accessToken
        "uid.utid-login.windows.net-accesstoken-client-utid-b a").map Entry.key) =
          some "uid.utid-login.windows.net-accesstoken-client-utid-a b" := by
      rw [load?, TokenCache.save, parse?_text_eq]
      decide +kernel
    have hstored' : ((load? Sample.blanks.save.1).bind fun c => (c.store.entryAt? .accessToken
        "uid.utid-login.windows.net-accesstoken-client-utid-a b").map Entry.key) =
          some "uid.utid-login.windows.net-accesstoken-client-utid-a b" := by
      rw [load?, TokenCache.save, parse?_text_eq]
      decide +kernel
    obtain ⟨c, e, hload, he, hkey⟩ := exists_entry_of_key hstored
    obtain ⟨c', e', hload', he', hkey'⟩ := exists_entry_of_key hstored'
    obtain rfl : c = c' := Option.some.inj (hload.symm.trans hload')
    exact ⟨c, e, e', hload, he, he', hkey.trans hkey'.symm⟩
  · have hstored : ((load? (TokenCache.new.modify
        (·.putRefreshToken Sample.branded)).save.1).bind fun c => (c.store.entryAt? .refreshToken
          "uid.utid-login.windows.net-refreshtoken-client--").map Entry.key) =
            some "uid.utid-login.windows.net-refreshtoken-1--" := by
      rw [load?, TokenCache.save, parse?_text_eq]
      decide +kernel
    obtain ⟨c, e, hload, he, hkey⟩ := exists_entry_of_key hstored
    refine ⟨c, e, hload, he, ?_⟩
    rw [hkey]
    decide

/-- The tokens of a response are saved and loaded again: all of them are stored under the keys that
they derive. -/
theorem wellKeyed_loaded :
    ∃ c, load? (TokenCache.new.modify (·.saveResponse
        (Issued.Sample.response "uid.utid" "login.windows.net"))).save.1 = some c ∧
      (c.store.entryAt? .accessToken
        "uid.utid-login.windows.net-accesstoken-client-utid-read").isSome = true ∧
      (∀ kind key e, c.store.entryAt? kind key = some e → e.key = key) ∧
      ∀ kind key key' e e', c.store.entryAt? kind key = some e →
        c.store.entryAt? kind key' = some e' → e.key = e'.key → key = key' := by
  have hread : ((load? (TokenCache.new.modify (·.saveResponse
      (Issued.Sample.response "uid.utid" "login.windows.net"))).save.1).bind fun c =>
        (c.store.entryAt? .accessToken
          "uid.utid-login.windows.net-accesstoken-client-utid-read").map Entry.key).isSome = true := by
    rw [load?, TokenCache.save, parse?_text_eq]
    decide +kernel
  obtain ⟨derived, hderived⟩ := Option.isSome_iff_exists.1 hread
  obtain ⟨c, e, hload, he, _⟩ := exists_entry_of_key hderived
  have hwords : ∀ name ∈ (Issued.Sample.response "uid.utid" "login.windows.net").target.names,
      IsWord name := by
    intro name hname
    obtain ⟨hread, _⟩ := Scopes.mem_names_withoutReserved.1 hname
    exact isWord_of_mem_words (Scopes.mem_names_ofText.1 hread)
  have hsteady : ∀ w, Store.Change.Stores
      (.save (Issued.Sample.response "uid.utid" "login.windows.net")) w → w.Steady := by
    intro w hw
    cases hw with
    | save hw => exact Issued.steady_of_written? hw hwords
  have hevolved : Evolved Entry.Steady c := .load (.change .new hsteady) hload
  obtain ⟨hkeys, hdistinct⟩ := hevolved.wellKeyed
  refine ⟨c, hload, Option.isSome_of_eq_some he, ?_, hdistinct fun _ hsteady => hsteady⟩
  intro kind key e he
  refine (hkeys kind key e he).resolve_right ?_
  rintro ⟨w, hstored, hunsteady, _⟩
  exact hunsteady hstored

end TokenCache

end SilentAuth
