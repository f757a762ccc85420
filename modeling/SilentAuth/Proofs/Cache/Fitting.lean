import SilentAuth.Proofs.Cache.Documents
import SilentAuth.Proofs.Cache.Every

/-!
# Stores that can be read again

A store that was read from a document can be written and read again. So can what becomes of it when
tokens are saved, and when it is merged into a document.

* `Store.of_ofTree?_eq_some`: a store that was read fits into a document.
* `Store.Fits.saveResponse`, `Store.Fits.withoutAccount`, `Store.Fits.merge`: saving tokens,
  removing an account and merging keep that.
* `Store.Plain.saveResponse`, `Store.Plain.withoutAccount`, `Store.Plain.merge`: they keep that the
  access tokens are read again as they are, if the scopes are words.
-/

namespace SilentAuth

variable {α : Type}

namespace ParseTree

/-! ### Depths -/

/-- Members nest within a depth exactly if each of their values does. -/
theorem depthOfMembers_le_iff {members : List (String × Json)} {depth : Nat} :
    depthOfMembers members ≤ depth ↔ ∀ m ∈ members, depthOf m.2 ≤ depth := by
  induction members with
  | nil => simp [depthOfMembers]
  | cons m rest ih =>
    rw [depthOfMembers, List.forall_mem_cons, ← ih, Nat.max_le]

mutual

/-- The value of a tree nests no deeper than it may. -/
theorem depthOf_le_of_value? : ∀ {depth : Nat} {tree : ParseTree} {v : Json},
    tree.value? depth = some v → depthOf v ≤ depth
  | _, .null, _, h => by
    cases h
    exact Nat.zero_le _
  | _, .bool _, _, h => by
    cases h
    exact Nat.zero_le _
  | _, .number _, _, h => by
    obtain ⟨_, _, rfl⟩ := Option.map_eq_some_iff.1 h
    exact Nat.zero_le _
  | _, .string _, _, h => by
    obtain ⟨_, _, rfl⟩ := Option.map_eq_some_iff.1 h
    exact Nat.zero_le _
  | depth, .array items, _, h => by
    rw [value?] at h
    split at h
    · cases h
    · obtain ⟨vs, hvs, rfl⟩ := Option.map_eq_some_iff.1 h
      have hitems := depthOfItems_le_of_values? hvs
      rw [depthOf]
      omega
  | depth, .object members, _, h => by
    rw [value?] at h
    split at h
    · cases h
    · obtain ⟨ms, hms, rfl⟩ := Option.map_eq_some_iff.1 h
      have hmembers := depthOfMembers_le_of_memberValues? (Nat.zero_le _) hms
      rw [depthOf]
      omega

/-- Items that are read within a depth nest within it. -/
theorem depthOfItems_le_of_values? : ∀ {depth : Nat} {items : List ParseTree} {vs : List Json},
    values? depth items = some vs → depthOfItems vs ≤ depth
  | _, [], _, h => by
    cases h
    exact Nat.zero_le _
  | depth, item :: rest, _, h => by
    simp only [values?, Option.bind_eq_bind, Option.bind_eq_some_iff, Option.pure_def,
      Option.some.injEq] at h
    obtain ⟨v, hv, vs, hvs, rfl⟩ := h
    have hitem := depthOf_le_of_value? hv
    have hrest := depthOfItems_le_of_values? hvs
    rw [depthOfItems]
    omega

/-- Members that are read within a depth nest within it, together with those stored before. -/
theorem depthOfMembers_le_of_memberValues? : ∀ {depth : Nat}
    {members : List (Option String × ParseTree)} {stored ms : List (String × Json)},
    depthOfMembers stored ≤ depth → memberValues? depth stored members = some ms →
      depthOfMembers ms ≤ depth
  | _, [], _, _, hstored, h => by
    cases h
    exact hstored
  | depth, (key, tree) :: rest, stored, _, hstored, h => by
    simp only [memberValues?, Option.bind_eq_bind, Option.bind_eq_some_iff] at h
    obtain ⟨k, _, v, hv, hrest⟩ := h
    refine depthOfMembers_le_of_memberValues? ?_ hrest
    rw [depthOfMembers_le_iff] at hstored ⊢
    intro m hm
    rcases Assoc.mem_insert hm with rfl | hm
    · exact depthOf_le_of_value? hv
    · exact hstored m hm

end

/-- The keys of the values are keys of the members. -/
theorem mem_keys_of_memberValues? {depth : Nat} {members : List (Option String × ParseTree)}
    {stored ms : List (String × Json)} (h : memberValues? depth stored members = some ms)
    {m : String × Json} (hm : m ∈ ms) : m ∈ stored ∨ some m.1 ∈ members.map Prod.fst := by
  induction members generalizing stored with
  | nil =>
    cases h
    exact .inl hm
  | cons e rest ih =>
    obtain ⟨key, tree⟩ := e
    simp only [memberValues?, Option.bind_eq_bind, Option.bind_eq_some_iff] at h
    obtain ⟨k, rfl, v, _, hrest⟩ := h
    rcases ih hrest with hstored | hlater
    · rcases Assoc.mem_insert hstored with rfl | hstored
      · exact .inr List.mem_cons_self
      · exact .inl hstored
    · exact .inr (List.mem_cons_of_mem _ hlater)

end ParseTree

/-- Unrecognized fields that were read have other names than the recognized ones, and nest no deeper
than they may. -/
theorem Fields.others?_eq_some {fields : Fields} {depth : Nat} {recognized : List String}
    {members : Json.Members} (h : fields.others? depth recognized = some members) :
    (∀ m ∈ members.entries, m.1 ∉ recognized) ∧
      ParseTree.depthOf (.object members.entries) ≤ depth + 1 := by
  rw [Fields.others?_eq_some_iff] at h
  constructor
  · intro m hm
    rcases ParseTree.mem_keys_of_memberValues? h hm with hnil | hkey
    · cases hnil
    · simp only [List.map_map, List.mem_map, List.mem_filter] at hkey
      obtain ⟨f, ⟨_, hf⟩, hname⟩ := hkey
      have hkey : f.1 = m.1 := Option.some.inj hname
      rw [← hkey]
      simpa using hf
  · rw [ParseTree.depthOf]
    have hmembers := ParseTree.depthOfMembers_le_of_memberValues? (Nat.zero_le _) h
    omega

/-! ### What was read -/

/-- A record that was read fits where it was read, and is read again as it is. -/
theorem CacheRecord.of_read?_eq_some [CacheRecord α] [PersistentRecord α] {depth : Nat}
    {tree : ParseTree} {r : α} (h : read? depth tree = some r) :
    Fits depth r ∧ PersistentRecord.restate r = r := by
  simp only [read?, Option.bind_eq_bind, Option.bind_eq_some_iff] at h
  obtain ⟨fields, hfields, extra, hextra, hr⟩ := h
  obtain ⟨_, hpos⟩ := ParseTree.members?_eq_some_iff.1 hfields
  obtain ⟨hnames, hdepth⟩ := Fields.others?_eq_some hextra
  obtain ⟨rfl, hrestate⟩ := PersistentRecord.of_ofFields?_eq_some hr
  exact ⟨⟨hnames, by omega⟩, hrestate⟩

/-- The values of a dictionary that was read were read. -/
theorem ParseTree.of_dict?_eq_some {depth : Nat} {read? : Nat → ParseTree → Option α}
    {tree : ParseTree} {d : Dict α} (h : tree.dict? depth read? = some d) :
    ∀ v ∈ d.values, ∃ tree, read? (depth - 1) tree = some v := by
  simp only [dict?, Option.bind_eq_bind, Option.bind_eq_some_iff, Option.pure_def,
    Option.some.injEq] at h
  obtain ⟨members, _, pairs, hpairs, rfl⟩ := h
  have hread : ∀ p ∈ pairs, ∃ tree, read? (depth - 1) tree = some p.2 := by
    intro p hp
    have hmem : some p ∈ members.map fun m => (read? (depth - 1) m.2).map fun v => (m.1, v) := by
      rw [mapM_eq_some_iff.1 hpairs]
      exact List.mem_map_of_mem hp
    obtain ⟨m, _, hm⟩ := List.mem_map.1 hmem
    obtain ⟨v, hv, rfl⟩ := Option.map_eq_some_iff.1 hm
    exact ⟨m.2, hv⟩
  have hfold : ∀ (pairs : List (String × α)) (d : Dict α),
      ∀ v ∈ (pairs.foldl (fun d e => d.insert e.1 e.2) d).values,
        v ∈ d.values ∨ ∃ p ∈ pairs, p.2 = v := by
    intro pairs
    induction pairs with
    | nil => exact fun _ _ hv => .inl hv
    | cons p rest ih =>
      intro d v hv
      rcases ih _ v hv with hd | ⟨q, hq, rfl⟩
      · obtain ⟨e, he, rfl⟩ := List.mem_map.1 hd
        rcases Assoc.mem_insert he with rfl | he
        · exact .inr ⟨p, List.mem_cons_self, rfl⟩
        · exact .inl (List.mem_map_of_mem he)
      · exact .inr ⟨q, List.mem_cons_of_mem _ hq, rfl⟩
  intro v hv
  rcases hfold pairs .empty v hv with hnone | ⟨p, hp, rfl⟩
  · cases hnone
  · exact hread p hp

namespace Store

/-- The records of a bucket that was read fit there, and are read again as they are. -/
theorem of_bucket_eq_some [CacheRecord α] [PersistentRecord α] {fields : Fields} {name : String}
    {depth : Nat} {bucket : Bucket α}
    (h : fields.defaulted? name .empty (ParseTree.dict? depth CacheRecord.read?) = some bucket) :
    ∀ r ∈ bucket.values, CacheRecord.Fits (depth - 1) r ∧ PersistentRecord.restate r = r := by
  have hread := Fields.defaulted?_eq_some h
  intro r hr
  cases hfield : Assoc.find? name fields with
  | none =>
    rw [hfield] at hread
    cases hread
    cases hr
  | some tree =>
    rw [hfield] at hread
    obtain ⟨_, hrecord⟩ := ParseTree.of_dict?_eq_some hread r hr
    exact CacheRecord.of_read?_eq_some hrecord

/-- The access tokens of a store are read again as they are. -/
def Plain (s : Store) : Prop :=
  ∀ r ∈ s.accessTokens.values, PersistentRecord.restate r = r

/-- A store that was read fits into a document. -/
theorem of_ofTree?_eq_some {tree : ParseTree} {s : Store}
    (h : ofTree? Json.depthLimit tree = some s) : s.Fits ∧ s.Plain := by
  simp only [ofTree?, Option.bind_eq_bind, Option.bind_eq_some_iff, Option.pure_def,
    Option.some.injEq] at h
  obtain ⟨fields, _, accessTokens, haccess, refreshTokens, hrefresh, idTokens, hid, accounts,
    haccounts, appMetadata, happ, other, hother, rfl⟩ := h
  obtain ⟨hnames, hdepth⟩ := Fields.others?_eq_some hother
  exact ⟨{
    accessTokens := fun r hr => (of_bucket_eq_some haccess r hr).1
    refreshTokens := fun r hr => (of_bucket_eq_some hrefresh r hr).1
    idTokens := fun r hr => (of_bucket_eq_some hid r hr).1
    accounts := fun r hr => (of_bucket_eq_some haccounts r hr).1
    appMetadata := fun r hr => (of_bucket_eq_some happ r hr).1
    unrecognized := hnames
    shallow := hdepth }, fun r hr => (of_bucket_eq_some haccess r hr).2⟩

end Store

/-! ### Merging -/

/-- A pair of merged lists is one of the old list, or one of `update`, joined with the old one under
its key or as it is. -/
theorem Assoc.mem_mergeWith {join : α → α → α} {entries update : List (String × α)}
    (hentries : Ascending entries) (hupdate : Ascending update) {key : String} {v : α}
    (h : (key, v) ∈ mergeWith join entries update) :
    (key, v) ∈ entries ∨ ∃ new, (key, new) ∈ update ∧
      (v = new ∨ ∃ old, (key, old) ∈ entries ∧ v = join old new) := by
  have hfind := find?_eq_some_of_mem (ascending_mergeWith join hentries update) h
  rw [find?_mergeWith join hupdate] at hfind
  cases hnew : find? key update with
  | none =>
    rw [hnew] at hfind
    exact .inl (mem_of_find?_eq_some hfind)
  | some new =>
    refine .inr ⟨new, mem_of_find?_eq_some hnew, ?_⟩
    rw [hnew] at hfind
    cases hold : find? key entries with
    | none =>
      rw [hold] at hfind
      exact .inl (Option.some.inj hfind).symm
    | some old =>
      rw [hold] at hfind
      exact .inr ⟨old, mem_of_find?_eq_some hold, (Option.some.inj hfind).symm⟩

namespace Json

/-- Canonical values that are merged nest no deeper than they did. -/
theorem depthOf_merge_le {old update : Json} (hold : old.Canonical) (hupdate : update.Canonical)
    {depth : Nat} (hdepth : ParseTree.depthOf old ≤ depth)
    (hdepth' : ParseTree.depthOf update ≤ depth) :
    ParseTree.depthOf (merge old update) ≤ depth := by
  induction hupdate generalizing old depth with
  | null => cases old <;> exact hdepth'
  | bool b => cases old <;> exact hdepth'
  | number n => cases old <;> exact hdepth'
  | string s => cases old <;> exact hdepth'
  | array items _ => cases old <;> exact hdepth'
  | object ascending hmembers ih =>
    cases hold with
    | object ascending' hmembers' =>
      rw [ParseTree.depthOf] at hdepth hdepth'
      have hmem := ParseTree.depthOfMembers_le_iff.1 (Nat.le_sub_of_add_le hdepth)
      have hmem' := ParseTree.depthOfMembers_le_iff.1 (Nat.le_sub_of_add_le hdepth')
      rw [merge, ParseTree.depthOf, mergeMembers_eq_mergeWith]
      refine Nat.add_le_of_le_sub (by omega) (ParseTree.depthOfMembers_le_iff.2 ?_)
      rintro ⟨key, v⟩ hv
      rcases Assoc.mem_mergeWith ascending' ascending hv with
        hv | ⟨new, hnew, rfl | ⟨present, hpresent, rfl⟩⟩
      · exact hmem _ hv
      · exact hmem' _ hnew
      · exact ih _ hnew (hmembers' _ hpresent) (hmem _ hpresent) (hmem' _ hnew)
    | _ => exact hdepth'

namespace Members

variable {old update : Members}

/-- Merged members nest no deeper than they did. -/
theorem depthOf_merge_le {depth : Nat} (hold : ParseTree.depthOf (.object old.entries) ≤ depth)
    (hupdate : ParseTree.depthOf (.object update.entries) ≤ depth) :
    ParseTree.depthOf (.object (old.merge update).entries) ≤ depth := by
  have hmerge := Json.depthOf_merge_le old.canonical update.canonical hold hupdate
  rwa [Json.merge] at hmerge

/-- Merged members have no names that they did not have. -/
theorem not_mem_names_merge {names : List String} (hold : ∀ m ∈ old.entries, m.1 ∉ names)
    (hupdate : ∀ m ∈ update.entries, m.1 ∉ names) :
    ∀ m ∈ (old.merge update).entries, m.1 ∉ names := by
  rintro ⟨key, v⟩ hm
  have hmerged : (key, v) ∈ Assoc.mergeWith Json.merge old.entries update.entries :=
    mergeMembers_eq_mergeWith old.entries update.entries ▸ hm
  rcases Assoc.mem_mergeWith old.ascending update.ascending hmerged with hm | ⟨new, hnew, _⟩
  · exact hold _ hm
  · exact hupdate (key, new) hnew

end Members

end Json

/-- Records that fit are joined to one that fits. -/
theorem CacheRecord.Fits.merge [CacheRecord α] [LawfulCacheRecord α] {depth : Nat} {old update : α}
    (hold : Fits depth old) (hupdate : Fits depth update) :
    Fits depth (CacheRecord.merge old update) := by
  constructor
  · rw [CacheRecord.merge, LawfulCacheRecord.extra_withExtra]
    exact Json.Members.not_mem_names_merge hold.unrecognized hupdate.unrecognized
  · rw [CacheRecord.merge, LawfulCacheRecord.extra_withExtra]
    exact Json.Members.depthOf_merge_le hold.shallow hupdate.shallow

/-! ### Stores after a change -/

/-- The scopes of a new access token are among those requested and those granted. -/
theorem Issued.isWord_of_mem_target {i : Issued}
    (hrequested : ∀ name ∈ i.context.requestedScopes.names, IsWord name)
    (hgranted : ∀ name ∈ i.response.scopes.names, IsWord name) :
    ∀ name ∈ i.target.names, IsWord name := by
  intro name hname
  obtain ⟨hmem, _⟩ := Scopes.mem_names_withoutReserved.1 hname
  split at hmem
  · exact hrequested name hmem
  · exact hgranted name hmem

namespace Store

/-- Every record of a store that fits into a document fits into its bucket. -/
theorem Fits.every {s : Store} (h : s.Fits) : s.Every (CacheRecord.Fits recordDepth) :=
  ⟨h.accessTokens, h.refreshTokens, h.idTokens, h.accounts, h.appMetadata⟩

/-- A store fits into a document if its records and its unrecognized sections do. -/
theorem Every.fits {s : Store} (h : s.Every (CacheRecord.Fits recordDepth))
    (hunrecognized : ∀ m ∈ s.other.entries, m.1 ∉ sectionNames)
    (hshallow : ParseTree.depthOf (.object s.other.entries) ≤ Json.depthLimit) : s.Fits :=
  ⟨h.accessTokens, h.refreshTokens, h.idTokens, h.accounts, h.appMetadata, hunrecognized, hshallow⟩

/-- Stores that fit are merged to one that fits. -/
theorem Fits.merge {old update : Store} (hold : old.Fits) (hupdate : update.Fits) :
    (old.merge update).Fits :=
  (hold.every.merge .merge hupdate.every).fits
    (Json.Members.not_mem_names_merge hold.unrecognized hupdate.unrecognized)
    (Json.Members.depthOf_merge_le hold.shallow hupdate.shallow)

/-- What is merged is read again as it is if the update is. -/
theorem Plain.merge {update : Store} (h : update.Plain) (old : Store) :
    (old.merge update).Plain := by
  refine Bucket.forall_values_merge_of_update ?_ h old.accessTokens
  intro o new hnew
  rw [CacheRecord.merge, PersistentRecord.restate_withExtra, hnew]

/-- A record without unrecognized fields fits. -/
theorem fits_of_extra_eq_empty [CacheRecord α] {r : α} (h : CacheRecord.extra r = .empty) :
    CacheRecord.Fits recordDepth r := by
  constructor
  · rw [h]
    intro m hm
    cases hm
  · rw [h]
    decide

/-- A store that fits takes in the tokens of a response. -/
theorem Fits.saveResponse {s : Store} (h : s.Fits) (i : Issued) : (s.saveResponse i).Fits := by
  have hother : (s.saveResponse i).other = s.other := by rw [saveResponse_eq]
  refine (h.every.saveResponse .merge fits_of_extra_eq_empty i).fits ?_ ?_
  · rw [hother]
    exact h.unrecognized
  · rw [hother]
    exact h.shallow

/-- If the granted scopes are words, the access tokens are read again as they are after a response
was saved, too. -/
theorem Plain.saveResponse {s : Store} (h : s.Plain) {i : Issued}
    (hwords : ∀ name ∈ i.target.names, IsWord name) : (s.saveResponse i).Plain := by
  intro r hr
  rw [accessTokens_saveResponse] at hr
  rcases Bucket.mem_values_put hr with rfl | hr
  · exact congrArg (fun target => { i.accessTokenRecord with target }) (Scopes.ofText_text hwords)
  · exact h r (Dict.mem_values_of_filter hr)

/-- A store that fits does so without an account. -/
theorem Fits.withoutAccount {s : Store} (h : s.Fits) (homeAccountId : String)
    (aliases : List String) : (s.withoutAccount homeAccountId aliases).Fits :=
  (h.every.withoutAccount homeAccountId aliases).fits h.unrecognized h.shallow

/-- A store that is read again as it is stays one without an account. -/
theorem Plain.withoutAccount {s : Store} (h : s.Plain) (homeAccountId : String)
    (aliases : List String) : (s.withoutAccount homeAccountId aliases).Plain :=
  fun r hr => h r (Dict.mem_values_of_filter hr)

end Store

end SilentAuth
