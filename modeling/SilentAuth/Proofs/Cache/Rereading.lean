import SilentAuth.Proofs.Cache.Documents
import SilentAuth.Proofs.Json.Objects

/-!
# What a document is read as

A record may have unrecognized fields under the name of a recognized one, and then its document cannot
be read, or is read otherwise. What can be said of every document is said here: which fields and
sections stand in it, and that whatever is read from it is read from there.

* `CacheRecord.written`, `Store.written`: the fields of a document as they are read.
* `CacheRecord.read?_document`, `Bucket.find?_of_dict?_bucketJson`, `Store.dict?_of_section`: where
  records, buckets and stores are read from.
* `TokenCache.parse?_text_eq`: the text of a store is read as its document.
-/

namespace SilentAuth

variable {α : Type}

/-! ### Records -/

namespace CacheRecord

variable [CacheRecord α]

/-- The fields of a record as they are read from its document. -/
def written (r : α) : Fields :=
  (fields r ++ (extra r).entries).map fun m => (m.1, ParseTree.ofValue m.2.reread)

/-- A record is read from the fields of its document. -/
theorem read?_document {depth : Nat} (hpos : 0 < depth) (r : α) :
    read? (α := α) depth (ParseTree.ofValue (toJson r).reread) =
      ((written r).others? (depth - 1) (recognized α)).bind
        (ofFields? (depth - 1) (written r)) := by
  rw [read?, toJson, ParseTree.members?_ofValue_object hpos]
  rfl

variable [PersistentRecord α] {r : α}

/-- What stands under a name in the document of a record: the recognized field of that name, if there
is one, and unrecognized fields. -/
theorem filter_written (r : α) (name : String) :
    ((written r).filter fun f => f.1 == name) =
      ((Assoc.find? name (fields r)).map fun v => (name, ParseTree.ofValue v)).toList ++
        (((extra r).entries.map fun m => (m.1, ParseTree.ofValue m.2.reread)).filter
          fun f => f.1 == name) := by
  have hfields : ((fields r).map fun m => (m.1, ParseTree.ofValue m.2.reread)) =
      (fields r).map fun m => (m.1, ParseTree.ofValue m.2) :=
    List.map_congr_left fun m hm => by rw [reread_fields hm]
  have hnodup : (((fields r).map fun m => (m.1, ParseTree.ofValue m.2)).map Prod.fst).Nodup := by
    rw [List.map_map]
    exact nodup_names r
  rw [written, List.map_append, List.filter_append, hfields,
    Fields.filter_eq_toList_find? hnodup, Assoc.find?_map, Option.map_map]
  rfl

/-- A name without an unrecognized field is read as it was written. -/
theorem single?_written {name : String} (h : (extra r).find? name = none) :
    (written r).single? name = some ((Assoc.find? name (fields r)).map ParseTree.ofValue) := by
  have hnil : (((extra r).entries.map fun m => (m.1, ParseTree.ofValue m.2.reread)).filter
      fun f => f.1 == name) = [] := by
    rw [List.filter_eq_nil_iff]
    intro f hf hname
    obtain ⟨m, hm, rfl⟩ := List.mem_map.1 hf
    have hsome : ((extra r).find? name).isSome = true :=
      Assoc.find?_isSome_iff.2 (List.mem_map.2 ⟨m, hm, by simpa using hname⟩)
    rw [h] at hsome
    cases hsome
  rw [Fields.single?, filter_written, hnil, List.append_nil]
  cases Assoc.find? name (fields r) <;> rfl

/-- What a record does not recognize is left over, and nothing else. -/
theorem filter_unrecognized_written (r : α) :
    ((written r).filter fun f => !(recognized α).contains f.1) =
      ((extra r).entries.map fun m => (m.1, ParseTree.ofValue m.2.reread)).filter
        fun f => !(recognized α).contains f.1 := by
  have hnil : (((fields r).map fun m => (m.1, ParseTree.ofValue m.2.reread)).filter fun f =>
      !(recognized α).contains f.1) = [] := by
    rw [List.filter_eq_nil_iff]
    intro f hf
    obtain ⟨m, hm, rfl⟩ := List.mem_map.1 hf
    simpa using mem_recognized hm
  rw [written, List.map_append, List.filter_append, hnil, List.nil_append]

/-- A recognized field stands in the document. -/
theorem mem_written {m : String × Json} (h : m ∈ fields r) :
    (m.1, ParseTree.ofValue m.2) ∈ written r := by
  refine List.mem_map.2 ⟨m, List.mem_append_left _ h, ?_⟩
  rw [reread_fields h]

end CacheRecord

/-! ### Buckets -/

/-- No key is repeated in an ascending list. -/
theorem Assoc.last?_of_ascending {entries : List (String × α)} (h : Ascending entries)
    (key : String) : last? key entries = find? key entries := by
  induction entries with
  | nil => rfl
  | cons e rest ih =>
    obtain ⟨hlt, hrest⟩ := List.pairwise_cons.1 h
    rw [last?_cons, ih hrest, find?]
    split
    · rename_i hkey
      rw [find?_eq_none_of_forall_lt (hkey ▸ hlt), Option.none_or]
    · rw [Option.or_none]

/-- What is read under a key of a bucket is read from the record there. -/
theorem Bucket.find?_of_dict?_bucketJson [CacheRecord α] {depth : Nat} {bucket read : Bucket α}
    (h : (ParseTree.ofValue (Store.bucketJson bucket).reread).dict? depth CacheRecord.read? =
      some read) (key : String) :
    (read.find? key).map some = (bucket.find? key).map fun r =>
      CacheRecord.read? (depth - 1) (ParseTree.ofValue (CacheRecord.toJson r).reread) := by
  obtain ⟨fields, hfields, _⟩ := ParseTree.exists_members_of_dict? h
  have hpos : 0 < depth := (ParseTree.members?_eq_some_iff.1 hfields).2
  have hmembers := ParseTree.members?_ofValue_object hpos
    (bucket.entries.map fun e => (e.1, CacheRecord.toJson e.2))
  rw [List.map_map] at hmembers
  have hascending : Assoc.Ascending (bucket.entries.map fun e =>
      (e.1, ParseTree.ofValue (CacheRecord.toJson e.2).reread)) :=
    (bucket.mapValues fun r => ParseTree.ofValue (CacheRecord.toJson r).reread).ascending
  rw [ParseTree.find?_of_dict? hmembers h key]
  exact congrArg (Option.map _) ((Assoc.last?_of_ascending hascending key).trans
    (Assoc.find?_map (fun r => ParseTree.ofValue (CacheRecord.toJson r).reread) key _))
    |>.trans (Option.map_map _ _ _)

/-! ### Stores -/

namespace Store

/-- The members of the document of a store, as they are read. -/
def written (s : Store) : Fields :=
  (s.sections ++ s.other.entries).map fun m => (m.1, ParseTree.ofValue m.2.reread)

/-- What stands under the name of a section in the document of a store: the section, and perhaps
unrecognized ones. -/
theorem filter_written {s : Store} {name : String} {tree : ParseTree}
    (h : ((s.sections.map fun m => (m.1, ParseTree.ofValue m.2.reread)).filter
      fun f => f.1 == name) = [(name, tree)]) :
    (s.written.filter fun f => f.1 == name) =
      (name, tree) :: ((s.other.entries.map fun m => (m.1, ParseTree.ofValue m.2.reread)).filter
        fun f => f.1 == name) := by
  rw [written, List.map_append, List.filter_append, h]
  rfl

/-- The sections that are not recognized are left over. -/
theorem filter_unrecognized_written (s : Store) :
    (s.written.filter fun f => !sectionNames.contains f.1) =
      (s.other.entries.map fun m => (m.1, ParseTree.ofValue m.2.reread)).filter
        fun f => !sectionNames.contains f.1 := by
  have hnil : ((s.sections.map fun m => (m.1, ParseTree.ofValue m.2.reread)).filter fun f =>
      !sectionNames.contains f.1) = [] := rfl
  rw [written, List.map_append, List.filter_append, hnil, List.nil_append]

/-- The members of the document of a store are read. -/
theorem members?_toJson {depth : Nat} (hpos : 0 < depth) (s : Store) :
    (ParseTree.ofValue s.toJson.reread).members? depth = some s.written :=
  ParseTree.members?_ofValue_object hpos (s.sections ++ s.other.entries)

/-- The bucket that is read from a document is read from its section. -/
theorem dict?_of_section [CacheRecord α] {s : Store} {depth : Nat} {name : String}
    {bucket read : Bucket α} (hmem : (name, bucketJson bucket) ∈ s.sections)
    (h : s.written.defaulted? name .empty (ParseTree.dict? depth CacheRecord.read?) = some read) :
    (ParseTree.ofValue (bucketJson bucket).reread).dict? depth CacheRecord.read? = some read :=
  Fields.read?_of_defaulted? (f := (name, ParseTree.ofValue (bucketJson bucket).reread)) h
    (List.mem_map.2 ⟨_, List.mem_append_left _ hmem, rfl⟩) rfl

end Store

/-- The text of a store is read as its document. -/
theorem TokenCache.parse?_text_eq (s : Store) :
    parse? s.text = Store.ofTree? Json.depthLimit (ParseTree.ofValue s.toJson.reread) := by
  rw [parse?, s.allBlank_text, Store.read?, Store.text, ParseTree.read?_text]
  rfl

end SilentAuth
