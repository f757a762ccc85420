import SilentAuth.Proofs.Cache.Rehosting
import SilentAuth.Proofs.Cache.Rereading

/-!
# Texts of rehosted stores

Whether the document of a store can be read does not depend on the hosts of its records: a host is
written as one text, and any text is read as a host.

* `CacheRecord.read?_withHost`: the document of a record under another host is read as the record
  under that host.
* `TokenCache.parse?_text_isSome`: of two rehosted stores, the text of one can be loaded if that of
  the other can.
-/

namespace SilentAuth

open HostedRecord

variable {α β : Type}

/-! ### Records -/

/-- The fields agree, except for one name. -/
def Fields.AgreeBut (skipped : String) (fields fields' : Fields) : Prop :=
  ∀ field ≠ skipped, fields'.single? field = fields.single? field

namespace Fields.AgreeBut

variable {skipped field : String} {fields fields' : Fields} {read? : ParseTree → Option β}

/-- A required field is read alike, unless it is the one in which the fields differ. -/
theorem required? (h : AgreeBut skipped fields fields') (hne : field ≠ skipped) :
    fields'.required? field read? = fields.required? field read? := by
  unfold Fields.required?
  rw [h field hne]

/-- So is a field with a default. -/
theorem defaulted? {default : β} (h : AgreeBut skipped fields fields') (hne : field ≠ skipped) :
    fields'.defaulted? field default read? = fields.defaulted? field default read? := by
  unfold Fields.defaulted?
  rw [h field hne]

/-- So is an optional field. -/
theorem optional? (h : AgreeBut skipped fields fields') (hne : field ≠ skipped) :
    fields'.optional? field read? = fields.optional? field read? :=
  h.defaulted? hne

end Fields.AgreeBut

/-- What is left over depends on what is not recognized. -/
theorem Fields.others?_congr {fields fields' : Fields} {recognized : List String}
    (h : (fields'.filter fun f => !recognized.contains f.1) =
      fields.filter fun f => !recognized.contains f.1) (depth : Nat) :
    fields'.others? depth recognized = fields.others? depth recognized := by
  apply Option.ext
  intro members
  rw [Fields.others?_eq_some_iff, Fields.others?_eq_some_iff, h]

/-- A kind of records whose host is written as one of the fields, and read from there alone. -/
class HostField (α : Type) [CacheRecord α] [HostedRecord α] : Prop where
  find?_host (r : α) :
    Assoc.find? "environment" (CacheRecord.fields r) = some (.string (host r))
  find?_withHost (r : α) (name : String) {field : String} (h : field ≠ "environment") :
    Assoc.find? field (CacheRecord.fields (withHost r name)) =
      Assoc.find? field (CacheRecord.fields r)
  ofFields?_withHost {depth : Nat} {fields fields' : Fields} {extra : Json.Members} {name : String}
    (hother : Fields.AgreeBut "environment" fields fields')
    (hhost : fields'.required? "environment" ParseTree.text? =
      (fields.required? "environment" ParseTree.text?).map fun _ => name) :
    CacheRecord.ofFields? (α := α) depth fields' extra =
      (CacheRecord.ofFields? depth fields extra).map (withHost · name)

instance : HostField AccessTokenRecord where
  find?_host _ := rfl
  find?_withHost r name field h := by
    simp [CacheRecord.fields, withHost, Assoc.find?, Assoc.find?_append, Ne.symm h]
  ofFields?_withHost := by
    intro depth fields fields' extra name hother hhost
    simp only [CacheRecord.ofFields?, hother.required?, hother.defaulted?, hother.optional?, hhost,
      ne_eq, String.reduceEq, not_false_eq_true, Option.bind_eq_bind, Option.bind_map,
      Option.map_bind, Option.pure_def, Option.map_some, Function.comp_def]
    rfl

instance : HostField RefreshTokenRecord where
  find?_host _ := rfl
  find?_withHost r name field h := by
    simp [CacheRecord.fields, withHost, Assoc.find?, Ne.symm h]
  ofFields?_withHost := by
    intro depth fields fields' extra name hother hhost
    simp only [CacheRecord.ofFields?, hother.required?, hother.optional?, hhost,
      ne_eq, String.reduceEq, not_false_eq_true, Option.bind_eq_bind, Option.bind_map,
      Option.map_bind, Option.pure_def, Option.map_some, Function.comp_def]
    rfl

instance : HostField IdTokenRecord where
  find?_host _ := rfl
  find?_withHost r name field h := by
    simp [CacheRecord.fields, withHost, Assoc.find?, Ne.symm h]
  ofFields?_withHost := by
    intro depth fields fields' extra name hother hhost
    simp only [CacheRecord.ofFields?, hother.required?, hother.defaulted?, hhost,
      ne_eq, String.reduceEq, not_false_eq_true, Option.bind_eq_bind, Option.bind_map,
      Option.map_bind, Option.pure_def, Option.map_some, Function.comp_def]
    rfl

instance : HostField AccountRecord where
  find?_host _ := rfl
  find?_withHost r name field h := by
    simp [CacheRecord.fields, withHost, Assoc.find?, Ne.symm h]
  ofFields?_withHost := by
    intro depth fields fields' extra name hother hhost
    simp only [CacheRecord.ofFields?, hother.required?, hother.defaulted?, hother.optional?, hhost,
      ne_eq, String.reduceEq, not_false_eq_true, Option.bind_eq_bind, Option.bind_map,
      Option.map_bind, Option.pure_def, Option.map_some, Function.comp_def]
    rfl

instance : HostField AppMetadataRecord where
  find?_host _ := rfl
  find?_withHost r name field h := by
    simp [CacheRecord.fields, withHost, Assoc.find?, Ne.symm h]
  ofFields?_withHost := by
    intro depth fields fields' extra name hother hhost
    simp only [CacheRecord.ofFields?, hother.required?, hother.optional?, hhost,
      ne_eq, String.reduceEq, not_false_eq_true, Option.bind_eq_bind, Option.bind_map,
      Option.map_bind, Option.pure_def, Option.map_some, Function.comp_def]
    rfl

namespace CacheRecord

variable [CacheRecord α] [PersistentRecord α] [HostedRecord α] [HostField α]

/-- Under another host a record is written in the same way, but for the host. -/
theorem agreeBut_withHost (r : α) (name : String) :
    Fields.AgreeBut "environment" (written r) (written (withHost r name)) := by
  intro field hne
  rw [Fields.single?, Fields.single?, filter_written, filter_written, extra_withHost,
    HostField.find?_withHost r name hne]

/-- The host is read as it was written, if nothing else is written in its place. -/
theorem required?_withHost (r : α) (name : String) :
    (written (withHost r name)).required? "environment" ParseTree.text? =
      ((written r).required? "environment" ParseTree.text?).map fun _ => name := by
  rw [Fields.required?, Fields.required?, Fields.single?, Fields.single?, filter_written,
    filter_written, extra_withHost, HostField.find?_host, HostField.find?_host,
    HostedRecord.host_withHost]
  generalize List.filter _ _ = unrecognized
  cases unrecognized with
  | nil => rfl
  | cons f rest => rfl

/-- The document of a record under another host is read as the record under that host. -/
theorem read?_withHost (depth : Nat) (r : α) (name : String) :
    read? (α := α) depth (ParseTree.ofValue (toJson (withHost r name)).reread) =
      (read? depth (ParseTree.ofValue (toJson r).reread)).map (withHost · name) := by
  rcases Nat.eq_zero_or_pos depth with rfl | hpos
  · rfl
  have hothers : (written (withHost r name)).others? (depth - 1) (recognized α) =
      (written r).others? (depth - 1) (recognized α) := by
    apply Fields.others?_congr
    rw [filter_unrecognized_written, filter_unrecognized_written, extra_withHost]
  rw [read?_document hpos, read?_document hpos, hothers, Option.map_bind]
  congr 1
  funext extra
  exact HostField.ofFields?_withHost (agreeBut_withHost r name) (required?_withHost r name)

end CacheRecord

/-! ### Buckets -/

/-- A list is read exactly if all its items are. -/
theorem mapM_isSome_iff {read? : α → Option β} {items : List α} :
    (items.mapM read?).isSome = true ↔ ∀ item ∈ items, (read? item).isSome = true := by
  induction items with
  | nil => simp
  | cons item rest ih =>
    rw [List.forall_mem_cons, ← ih, List.mapM_cons]
    cases read? item with
    | none => simp
    | some v => cases rest.mapM read? <;> simp

/-- An object is read as a dictionary exactly if all its members are. -/
theorem ParseTree.dict?_isSome_iff {depth : Nat} {read? : Nat → ParseTree → Option α}
    {members : List (String × Json)} :
    ((ofValue (Json.reread (.object members))).dict? depth read?).isSome = true ↔
      0 < depth ∧ ∀ m ∈ members, (read? (depth - 1) (ofValue m.2.reread)).isSome = true := by
  rcases Nat.eq_zero_or_pos depth with rfl | hpos
  · simp [dict?, members?, Json.reread, ofValue]
  have hmembers := members?_ofValue_object hpos members
  rw [dict?, hmembers, and_iff_right hpos]
  have hisSome : ∀ pairs : Option (List (String × α)),
      (pairs.bind fun pairs => pure (Dict.ofList pairs)).isSome = pairs.isSome := by
    intro pairs
    cases pairs <;> rfl
  show (Option.bind (List.mapM _ _) _).isSome = true ↔ _
  rw [hisSome, mapM_isSome_iff, List.forall_mem_map]
  simp only [Option.isSome_map]

/-- The section of a bucket can be read if that of a rehosted one can. -/
theorem Bucket.Rehosted.dict?_isSome [CacheRecord α] [PersistentRecord α] [HostedRecord α]
    [HostField α] {names : List String} {bucket bucket' : Bucket α} {depth : Nat}
    (h : Bucket.Rehosted names bucket bucket')
    (hread : ((ParseTree.ofValue (Store.bucketJson bucket).reread).dict? depth
      (CacheRecord.read? (α := α))).isSome = true) :
    ((ParseTree.ofValue (Store.bucketJson bucket').reread).dict? depth
      (CacheRecord.read? (α := α))).isSome = true := by
  rw [Store.bucketJson, ParseTree.dict?_isSome_iff, List.forall_mem_map] at hread ⊢
  obtain ⟨hpos, hread⟩ := hread
  refine ⟨hpos, ?_⟩
  rintro ⟨key, r'⟩ hr'
  have hkey := h key
  rw [Dict.find?_eq_some_iff.2 hr'] at hkey
  generalize hfound : bucket.find? key = found at hkey
  cases hkey with
  | @some r _ hr =>
    have hrecord := hread (key, r) (Dict.find?_eq_some_iff.1 hfound)
    obtain ⟨name, rfl, _⟩ := hr.exists_withHost
    rw [CacheRecord.read?_withHost, Option.isSome_map]
    exact hrecord

/-! ### Stores -/

namespace Fields

/-- A field with a default is read in both lists or in neither, if it stands there in the same way. -/
theorem defaulted?_isSome_of_filter {fields fields' unrecognized : Fields} {name : String}
    {tree tree' : ParseTree} {default : β} {read? : ParseTree → Option β}
    (hfields : (fields.filter fun f => f.1 == name) = (name, tree) :: unrecognized)
    (hfields' : (fields'.filter fun f => f.1 == name) = (name, tree') :: unrecognized)
    (htree : (read? tree).isSome = true → (read? tree').isSome = true)
    (h : (fields.defaulted? name default read?).isSome = true) :
    (fields'.defaulted? name default read?).isSome = true := by
  rw [defaulted?, single?, hfields] at h
  rw [defaulted?, single?, hfields']
  cases unrecognized with
  | nil => exact htree h
  | cons f rest => cases h

end Fields

namespace Store

variable {names : List String} {s s' : Store} {depth : Nat}

/-- The section of a rehosted bucket is read if that of the bucket is. -/
theorem Rehosted.exists_section {α : Type} [CacheRecord α] [PersistentRecord α] [HostedRecord α]
    [HostField α] (h : Store.Rehosted names s s') {name : String} {bucket bucket' read : Bucket α}
    (hbucket : Bucket.Rehosted names bucket bucket')
    (hstands : ((s.sections.map fun m => (m.1, ParseTree.ofValue m.2.reread)).filter
      fun f => f.1 == name) = [(name, ParseTree.ofValue (bucketJson bucket).reread)])
    (hstands' : ((s'.sections.map fun m => (m.1, ParseTree.ofValue m.2.reread)).filter
      fun f => f.1 == name) = [(name, ParseTree.ofValue (bucketJson bucket').reread)])
    (hread : s.written.defaulted? name .empty (ParseTree.dict? depth CacheRecord.read?) =
      some read) :
    ∃ read' : Bucket α,
      s'.written.defaulted? name .empty (ParseTree.dict? depth CacheRecord.read?) = some read' := by
  have hfields' := filter_written hstands'
  rw [h.other] at hfields'
  rw [← Option.isSome_iff_exists]
  exact Fields.defaulted?_isSome_of_filter (filter_written hstands) hfields'
    hbucket.dict?_isSome (Option.isSome_of_eq_some hread)

/-- The document of a store can be read if that of a rehosted one can. -/
theorem Rehosted.ofTree?_isSome (h : Store.Rehosted names s s')
    (hread : (ofTree? depth (ParseTree.ofValue s.toJson.reread)).isSome = true) :
    (ofTree? depth (ParseTree.ofValue s'.toJson.reread)).isSome = true := by
  rcases Nat.eq_zero_or_pos depth with rfl | hpos
  · cases hread
  have hothers : s'.written.others? (depth - 1) sectionNames =
      s.written.others? (depth - 1) sectionNames := by
    apply Fields.others?_congr
    rw [filter_unrecognized_written, filter_unrecognized_written, h.other]
  obtain ⟨read, hread⟩ := Option.isSome_iff_exists.1 hread
  simp only [ofTree?, members?_toJson hpos, Option.bind_eq_bind, Option.bind_some,
    Option.bind_eq_some_iff] at hread
  obtain ⟨_, haccess, _, hrefresh, _, hid, _, haccounts, _, happ, _, hother, _⟩ := hread
  obtain ⟨_, haccess'⟩ := h.exists_section h.accessTokens rfl rfl haccess
  obtain ⟨_, hrefresh'⟩ := h.exists_section h.refreshTokens rfl rfl hrefresh
  obtain ⟨_, hid'⟩ := h.exists_section h.idTokens rfl rfl hid
  obtain ⟨_, haccounts'⟩ := h.exists_section h.accounts rfl rfl haccounts
  obtain ⟨_, happ'⟩ := h.exists_section h.appMetadata rfl rfl happ
  simp only [ofTree?, members?_toJson hpos, Option.bind_eq_bind, Option.bind_some, haccess',
    hrefresh', hid', haccounts', happ', hothers, hother]
  rfl

end Store

/-- Of two rehosted stores, the text of one can be loaded if that of the other can. -/
theorem TokenCache.parse?_text_isSome {names : List String} {s s' : Store}
    (h : Store.Rehosted names s s') : (parse? s'.text).isSome = (parse? s.text).isSome := by
  rw [parse?_text_eq, parse?_text_eq, Bool.eq_iff_iff]
  exact ⟨h.symm.ofTree?_isSome, h.ofTree?_isSome⟩

end SilentAuth
