import SilentAuth.Cache.TokenCache
import SilentAuth.Proofs.Cache.Records

/-!
# Reading the document of a store

What a record does not recognize is kept as it is, so the document of a record can be read again
only if none of that has the name of a recognized field, and if it does not nest too deep. A store
of such records is read from its text as it is, but for the restated fields and for numbers that are
doubles.

* `CacheRecord.read?_toJson`, `Bucket.dict?_bucketJson`, `Store.read?_text`: reading what was
  written, for records, buckets and stores.
* `TokenCache.parse?_text`: the text of a store can be loaded.
-/

namespace SilentAuth

variable {α β : Type}

/-- Members as their text says them. -/
def Json.Members.reread (m : Members) : Members :=
  ⟨rereadMembers m.entries, m.canonical.reread⟩

/-- Members are read again one by one, each under its name. -/
theorem Json.Members.entries_reread (m : Members) :
    m.reread.entries = m.entries.map fun e => (e.1, e.2.reread) :=
  rereadMembers_eq_map m.entries

namespace ParseTree

/-- The tree of an object is read as the list of its members. -/
theorem members?_ofValue_object {depth : Nat} (h : 0 < depth) (members : List (String × Json)) :
    (ofValue (Json.reread (.object members))).members? depth =
      some (members.map fun m => (m.1, ofValue m.2.reread)) := by
  rw [members?_eq_some_iff, Json.reread, Json.rereadMembers_eq_map, ofValue, ofMemberValues_eq_map,
    List.map_map]
  exact ⟨by rw [List.map_map, List.map_map]; rfl, h⟩

/-- The members that are left over say what they said when they were written. -/
theorem others?_of_written {depth : Nat} {recognized : List String}
    {known : List (String × Json)} {extra : Json.Members}
    (hknown : ∀ m ∈ known, m.1 ∈ recognized)
    (hextra : ∀ m ∈ extra.entries, m.1 ∉ recognized)
    (hdepth : depthOf (.object extra.entries) ≤ depth + 1) :
    Fields.others? ((known ++ extra.entries).map fun m => (m.1, ofValue m.2.reread)) depth
      recognized = some extra.reread := by
  rw [Fields.others?_eq_some_iff, List.map_append, List.filter_append]
  have hnil : ((known.map fun m => (m.1, ofValue m.2.reread)).filter fun f =>
      !recognized.contains f.1) = [] := by
    rw [List.filter_eq_nil_iff]
    intro f hf
    obtain ⟨m, hm, rfl⟩ := List.mem_map.1 hf
    simpa using hknown m hm
  have hall : ((extra.entries.map fun m => (m.1, ofValue m.2.reread)).filter fun f =>
      !recognized.contains f.1) = extra.entries.map fun m => (m.1, ofValue m.2.reread) := by
    rw [List.filter_eq_self]
    intro f hf
    obtain ⟨m, hm, rfl⟩ := List.mem_map.1 hf
    simpa using hextra m hm
  have hmembers : (extra.entries.map fun m => (m.1, ofValue m.2.reread)).map
      (fun f => (some f.1, f.2)) = ofMemberValues extra.reread.entries := by
    rw [ofMemberValues_eq_map, Json.Members.entries_reread, List.map_map, List.map_map,
      List.map_map]
    rfl
  have hread : memberValues? depth [] (ofMemberValues extra.reread.entries) =
      some ([] ++ extra.reread.entries) := by
    refine memberValues?_ofMemberValues extra.reread.ascending extra.reread.canonical_of_mem ?_
    rw [Json.Members.reread, depthOfMembers_reread]
    rw [depthOf] at hdepth
    omega
  rw [hnil, hall, List.nil_append, hmembers, hread, List.nil_append]

end ParseTree

namespace CacheRecord

variable [CacheRecord α]

/-! ### Records -/

/-- The unrecognized fields of a record can be read again: they have other names than the recognized
ones, and together they nest at most `depth` deep. -/
structure Fits (depth : Nat) (r : α) : Prop where
  unrecognized : ∀ m ∈ (extra r).entries, m.1 ∉ recognized α
  shallow : ParseTree.depthOf (.object (extra r).entries) ≤ depth

variable [PersistentRecord α]

/-- A record as its document says it. -/
def reread (r : α) : α := withExtra (PersistentRecord.restate r) (extra r).reread

/-- Texts are read as they were written. -/
theorem reread_fields {r : α} {m : String × Json} (h : m ∈ fields r) : m.2.reread = m.2 := by
  obtain ⟨s, hs⟩ := PersistentRecord.fields_eq_string r m h
  rw [hs]
  rfl

/-- No field of a record is written twice. -/
theorem nodup_names (r : α) : ((fields r).map Prod.fst).Nodup :=
  PersistentRecord.nodup_recognized.sublist (PersistentRecord.names_sublist r)

/-- Every field that is written has a recognized name. -/
theorem mem_recognized {r : α} {m : String × Json} (h : m ∈ fields r) : m.1 ∈ recognized α :=
  (PersistentRecord.names_sublist r).subset (List.mem_map_of_mem h)

/-- A record is read from its document. -/
theorem read?_toJson {depth : Nat} {r : α} (h : Fits depth r) :
    read? depth (ParseTree.ofValue (toJson r).reread) = some (reread r) := by
  have hshallow := h.shallow
  have hpos : 0 < depth := by
    rw [ParseTree.depthOf] at hshallow
    omega
  have hothers := ParseTree.others?_of_written (fun _ (hm : _ ∈ fields r) => mem_recognized hm)
    h.unrecognized (show _ ≤ depth - 1 + 1 by omega)
  have hwritten : Written r
      ((fields r ++ (extra r).entries).map fun m => (m.1, ParseTree.ofValue m.2.reread)) := by
    intro name hname
    have hfields : ((fields r).map fun m => (m.1, ParseTree.ofValue m.2.reread)) =
        (fields r).map fun m => (m.1, ParseTree.ofValue m.2) :=
      List.map_congr_left fun m hm => by rw [reread_fields hm]
    rw [List.map_append, hfields, Fields.single?_append, Assoc.find?_map]
    · rw [List.map_map]
      exact nodup_names r
    · rw [List.map_map]
      intro hextra
      obtain ⟨m, hm, rfl⟩ := List.mem_map.1 hextra
      exact h.unrecognized m hm hname
  rw [read?, toJson, ParseTree.members?_ofValue_object hpos]
  simp only [Option.bind_eq_bind, Option.bind_some]
  rw [hothers]
  exact PersistentRecord.ofFields?_of_written hwritten

end CacheRecord

/-! ### Dictionaries -/

namespace Dict

/-- The dictionary with another value under each of its keys. -/
def mapValues (f : α → β) (d : Dict α) : Dict β where
  entries := d.entries.map fun e => (e.1, f e.2)
  ascending := by
    rw [Assoc.ascending_iff_keys, List.map_map]
    exact Assoc.ascending_iff_keys.1 d.ascending

/-- A lookup after all values were changed is a lookup whose result is changed. -/
theorem find?_mapValues (f : α → β) (d : Dict α) (key : String) :
    (d.mapValues f).find? key = (d.find? key).map f :=
  Assoc.find?_map f key d.entries

/-- The values that were changed are listed in the same order. -/
theorem values_mapValues (f : α → β) (d : Dict α) : (d.mapValues f).values = d.values.map f := by
  simp [values, mapValues]

/-- A dictionary is made of its pairs. -/
theorem ofList_entries (d : Dict α) : ofList d.entries = d := by
  have hfold : ∀ (stored rest : List (String × α)) (hstored : Assoc.Ascending stored),
      Assoc.Ascending (stored ++ rest) →
        (rest.foldl (fun d e => d.insert e.1 e.2) (⟨stored, hstored⟩ : Dict α)).entries =
          stored ++ rest := by
    intro stored rest
    induction rest generalizing stored with
    | nil => simp
    | cons e rest ih =>
      intro hstored hall
      obtain ⟨key, v⟩ := e
      have hinsert : Assoc.insert key v stored = stored ++ [(key, v)] :=
        Assoc.insert_of_forall_lt
          (fun e he => hall.lt_of_append he (List.mem_cons_self (a := (key, v)))) v
      have hstep : (⟨stored, hstored⟩ : Dict α).insert key v =
          ⟨stored ++ [(key, v)], hinsert ▸ Assoc.ascending_insert hstored⟩ := by
        apply ext_entries
        exact hinsert
      rw [List.foldl_cons, hstep, ih]
      · rw [List.append_assoc, List.singleton_append]
      · rwa [List.append_assoc, List.singleton_append]
  apply ext_entries
  exact hfold [] d.entries Assoc.ascending_nil d.ascending

end Dict

/-! ### Buckets -/

/-- A bucket is read from its section. -/
theorem Bucket.dict?_bucketJson [CacheRecord α] [PersistentRecord α] {depth : Nat}
    (hpos : 0 < depth) {bucket : Bucket α}
    (h : ∀ r ∈ bucket.values, CacheRecord.Fits (depth - 1) r) :
    (ParseTree.ofValue (Store.bucketJson bucket).reread).dict? depth CacheRecord.read? =
      some (bucket.mapValues CacheRecord.reread) := by
  have hpairs : ((bucket.entries.map fun e => (e.1, CacheRecord.toJson e.2)).map
      fun m => (m.1, ParseTree.ofValue m.2.reread)).mapM
        (fun m => (CacheRecord.read? (depth - 1) m.2).map fun v => (m.1, v)) =
          some (bucket.mapValues CacheRecord.reread).entries := by
    rw [mapM_eq_some_iff, Dict.mapValues, List.map_map, List.map_map, List.map_map]
    apply List.map_congr_left
    intro e he
    have hfits := h e.2 (List.mem_map_of_mem he)
    simp [CacheRecord.read?_toJson hfits]
  rw [ParseTree.dict?, Store.bucketJson, ParseTree.members?_ofValue_object hpos]
  simp only [Option.bind_eq_bind, Option.bind_some]
  rw [hpairs]
  exact congrArg some (Dict.ofList_entries _)

/-! ### Stores -/

namespace Store

/-- How deep a record may nest inside a document. -/
def recordDepth : Nat := Json.depthLimit - 1 - 1

/-- What a store does not recognize can be read again. -/
structure Fits (s : Store) : Prop where
  accessTokens : ∀ r ∈ s.accessTokens.values, CacheRecord.Fits recordDepth r
  refreshTokens : ∀ r ∈ s.refreshTokens.values, CacheRecord.Fits recordDepth r
  idTokens : ∀ r ∈ s.idTokens.values, CacheRecord.Fits recordDepth r
  accounts : ∀ r ∈ s.accounts.values, CacheRecord.Fits recordDepth r
  appMetadata : ∀ r ∈ s.appMetadata.values, CacheRecord.Fits recordDepth r
  unrecognized : ∀ m ∈ s.other.entries, m.1 ∉ sectionNames
  shallow : ParseTree.depthOf (.object s.other.entries) ≤ Json.depthLimit

/-- A store as its document says it. -/
def reread (s : Store) : Store where
  accessTokens := s.accessTokens.mapValues CacheRecord.reread
  refreshTokens := s.refreshTokens.mapValues CacheRecord.reread
  idTokens := s.idTokens.mapValues CacheRecord.reread
  accounts := s.accounts.mapValues CacheRecord.reread
  appMetadata := s.appMetadata.mapValues CacheRecord.reread
  other := s.other.reread

/-- The recognized sections of a document. -/
def sections (s : Store) : List (String × Json) :=
  [("AccessToken", bucketJson s.accessTokens), ("RefreshToken", bucketJson s.refreshTokens),
    ("IdToken", bucketJson s.idTokens), ("Account", bucketJson s.accounts),
    ("AppMetadata", bucketJson s.appMetadata)]

/-- A store is read from the tree of its document. -/
theorem ofTree?_toJson {s : Store} (h : s.Fits) :
    ofTree? Json.depthLimit (ParseTree.ofValue s.toJson.reread) = some s.reread := by
  have hnames : s.sections.map Prod.fst = sectionNames := rfl
  have hsingle : ∀ (name : String) (content : Json), Assoc.find? name s.sections = some content →
      Fields.single? ((s.sections ++ s.other.entries).map
        fun m => (m.1, ParseTree.ofValue m.2.reread)) name =
          some (some (ParseTree.ofValue content.reread)) := by
    intro name content hsection
    have hmem : name ∈ sectionNames := by
      rw [← hnames, ← Assoc.find?_isSome_iff, hsection]
      rfl
    rw [List.map_append, Fields.single?_append,
      Assoc.find?_map fun v : Json => ParseTree.ofValue v.reread, hsection]
    · rfl
    · rw [List.map_map]
      exact (by decide : sectionNames.Nodup)
    · rw [List.map_map]
      intro hother
      obtain ⟨m, hm, rfl⟩ := List.mem_map.1 hother
      exact h.unrecognized m hm hmem
  have hbucket {α : Type} [CacheRecord α] [PersistentRecord α] (name : String) (bucket : Bucket α)
      (hsection : Assoc.find? name s.sections = some (bucketJson bucket))
      (hfits : ∀ r ∈ bucket.values, CacheRecord.Fits recordDepth r) :
      Fields.defaulted? ((s.sections ++ s.other.entries).map
        fun m => (m.1, ParseTree.ofValue m.2.reread)) name .empty
          (ParseTree.dict? (Json.depthLimit - 1) CacheRecord.read?) =
            some (bucket.mapValues CacheRecord.reread) :=
    Fields.defaulted?_of_some (hsingle name _ hsection)
      (Bucket.dict?_bucketJson (by decide) hfits)
  have hothers := ParseTree.others?_of_written
    (fun m (hm : m ∈ s.sections) => hnames ▸ List.mem_map_of_mem hm) h.unrecognized
    (show _ ≤ Json.depthLimit - 1 + 1 from h.shallow)
  have hjson : s.toJson = .object (s.sections ++ s.other.entries) := rfl
  rw [ofTree?, hjson, ParseTree.members?_ofValue_object (by decide)]
  simp only [Option.bind_eq_bind, Option.bind_some]
  rw [hbucket "AccessToken" s.accessTokens rfl h.accessTokens,
    hbucket "RefreshToken" s.refreshTokens rfl h.refreshTokens,
    hbucket "IdToken" s.idTokens rfl h.idTokens, hbucket "Account" s.accounts rfl h.accounts,
    hbucket "AppMetadata" s.appMetadata rfl h.appMetadata, hothers]
  rfl

/-- A store is read from its text. -/
theorem read?_text {s : Store} (h : s.Fits) : read? s.text = some s.reread := by
  rw [read?, text, ParseTree.read?_text]
  exact ofTree?_toJson h

end Store

/-- A document is not blank. -/
theorem Store.allBlank_text (s : Store) : allBlank s.text = false := by
  have hbrace : s.text.toList.head? = some '{' := by
    rw [Store.text, Json.text, String.toList_ofList]
    rfl
  rw [Bool.eq_false_iff]
  intro hall
  have hmem := List.mem_of_mem_head? hbrace
  exact absurd (List.all_eq_true.1 hall '{' hmem) (by decide)

/-- The text of a store can be loaded. -/
theorem TokenCache.parse?_text {s : Store} (h : s.Fits) : parse? s.text = some s.reread := by
  rw [parse?, s.allBlank_text]
  exact Store.read?_text h

end SilentAuth
