import SilentAuth.Proofs.Cache.Documents
import SilentAuth.Proofs.Cache.Entries
import SilentAuth.Proofs.Json.Objects

/-!
# The value of a text that can be loaded

A document is read section by section, record by record and field by field, and nothing of it is
skipped. So a text that can be loaded is blank or has a value as a whole, and the loaded store has
what that value says: its unrecognized sections, its records, and their unrecognized fields.

* `ParseTree.Valued`: readers that accept only trees with a value.
* `ValuedRecord`: kinds of records of which every recognized field is read by such a reader.
* `TokenCache.exists_value_of_parse?`: the value of a text that can be loaded.
* `CacheRecord.member?_of_read?`, `Store.exists_entryAt?_of_value`, `Store.member?_of_value`: what
  the records and the store have of it.
-/

namespace SilentAuth

variable {α β : Type}

/-! ### Readers -/

namespace ParseTree

/-- A reader accepts only trees that have a value. -/
def Valued (depth : Nat) (read? : ParseTree → Option α) : Prop :=
  ∀ tree v, read? tree = some v → (tree.value? depth).isSome = true

variable {depth : Nat} {read? : ParseTree → Option α}

/-- A tree that is read as a text has a value. -/
theorem valued_text : Valued depth text? := by
  intro tree s h
  cases tree with
  | string s => simp_all [text?, value?]
  | _ => simp [text?] at h

/-- A tree that is read as scopes has a value. -/
theorem valued_scopes : Valued depth Scopes.read? := by
  intro tree v h
  obtain ⟨s, hs, _⟩ := Option.map_eq_some_iff.1 h
  exact valued_text tree s hs

/-- A time is read from a text or from a whole number. -/
theorem valued_time : Valued depth UnixTime.read? := by
  intro tree v h
  cases tree with
  | number n => cases n <;> simp_all [UnixTime.read?, natural?, value?]
  | string s => cases s <;> simp_all [UnixTime.read?, value?]
  | _ => simp [UnixTime.read?] at h

/-- The kind of a token is read from its name, or from an object with that name. -/
theorem valued_credentialType : Valued depth (CredentialType.read? depth) := by
  intro tree v h
  obtain ⟨name, hname, _⟩ := Option.bind_eq_some_iff.1 h
  unfold caseName? at hname
  split at hname
  · subst hname
    rfl
  · rename_i key
    split at hname
    · cases hname
    · rename_i hdepth
      subst hname
      simp [value?, memberValues?, hdepth]
  · cases hname

/-- Where null may stand for nothing, there is a value, too. -/
theorem Valued.option (h : Valued depth read?) : Valued depth (option? read?) := by
  intro tree v hv
  unfold option? at hv
  split at hv
  · rfl
  · obtain ⟨w, hw, _⟩ := Option.map_eq_some_iff.1 hv
    exact h tree w hw

end ParseTree

namespace Fields

variable {depth : Nat} {fields : Fields} {name : String} {read? : ParseTree → Option α}
  {f : String × ParseTree}

/-- A required field that was read has a value. -/
theorem value?_isSome_of_required? {v : α} (hread : ParseTree.Valued depth read?)
    (h : fields.required? name read? = some v) (hf : f ∈ fields) (hname : f.1 = name) :
    (f.2.value? depth).isSome = true :=
  hread f.2 v (read?_of_required? h hf hname)

/-- A field with a default that was read has a value. -/
theorem value?_isSome_of_defaulted? {default v : α} (hread : ParseTree.Valued depth read?)
    (h : fields.defaulted? name default read? = some v) (hf : f ∈ fields) (hname : f.1 = name) :
    (f.2.value? depth).isSome = true :=
  hread f.2 v (read?_of_defaulted? h hf hname)

/-- An optional field that was read has a value. -/
theorem value?_isSome_of_optional? {v : Option α} (hread : ParseTree.Valued depth read?)
    (h : fields.optional? name read? = some v) (hf : f ∈ fields) (hname : f.1 = name) :
    (f.2.value? depth).isSome = true :=
  value?_isSome_of_defaulted? hread.option h hf hname

end Fields

/-! ### Kinds of records -/

/-- A kind of records whose recognized fields have values wherever they can be read. -/
class ValuedRecord (α : Type) [CacheRecord α] : Prop where
  value?_isSome_of_ofFields? {depth : Nat} {fields : Fields} {extra : Json.Members} {r : α}
    (h : CacheRecord.ofFields? depth fields extra = some r) {f : String × ParseTree}
    (hf : f ∈ fields) (hname : f.1 ∈ CacheRecord.recognized α) :
    (f.2.value? depth).isSome = true

section Kinds

open ParseTree Fields

instance : ValuedRecord AccessTokenRecord where
  value?_isSome_of_ofFields? := by
    intro depth fields extra r h f hf hname
    simp only [CacheRecord.ofFields?, Option.bind_eq_bind, Option.bind_eq_some_iff] at h
    obtain ⟨_, hhome, _, henvironment, _, htype, _, hclient, _, hsecret, _, hrealm, _, htarget,
      _, hcached, _, hexpires, _, hextended, _, hrefresh, _⟩ := h
    simp only [CacheRecord.recognized, List.mem_cons, List.not_mem_nil, or_false] at hname
    rcases hname with hname | hname | hname | hname | hname | hname | hname | hname | hname |
      hname | hname
    · exact value?_isSome_of_defaulted? valued_text hhome hf hname
    · exact value?_isSome_of_required? valued_text henvironment hf hname
    · exact value?_isSome_of_required? valued_credentialType htype hf hname
    · exact value?_isSome_of_required? valued_text hclient hf hname
    · exact value?_isSome_of_required? valued_text hsecret hf hname
    · exact value?_isSome_of_defaulted? valued_text hrealm hf hname
    · exact value?_isSome_of_required? valued_scopes htarget hf hname
    · exact value?_isSome_of_required? valued_time hcached hf hname
    · exact value?_isSome_of_required? valued_time hexpires hf hname
    · exact value?_isSome_of_optional? valued_time hextended hf hname
    · exact value?_isSome_of_optional? valued_time hrefresh hf hname

instance : ValuedRecord RefreshTokenRecord where
  value?_isSome_of_ofFields? := by
    intro depth fields extra r h f hf hname
    simp only [CacheRecord.ofFields?, Option.bind_eq_bind, Option.bind_eq_some_iff] at h
    obtain ⟨_, hhome, _, henvironment, _, htype, _, hclient, _, hsecret, _, hfamily, _⟩ := h
    simp only [CacheRecord.recognized, List.mem_cons, List.not_mem_nil, or_false] at hname
    rcases hname with hname | hname | hname | hname | hname | hname
    · exact value?_isSome_of_required? valued_text hhome hf hname
    · exact value?_isSome_of_required? valued_text henvironment hf hname
    · exact value?_isSome_of_required? valued_credentialType htype hf hname
    · exact value?_isSome_of_required? valued_text hclient hf hname
    · exact value?_isSome_of_required? valued_text hsecret hf hname
    · exact value?_isSome_of_optional? valued_text hfamily hf hname

instance : ValuedRecord IdTokenRecord where
  value?_isSome_of_ofFields? := by
    intro depth fields extra r h f hf hname
    simp only [CacheRecord.ofFields?, Option.bind_eq_bind, Option.bind_eq_some_iff] at h
    obtain ⟨_, hhome, _, henvironment, _, htype, _, hclient, _, hsecret, _, hrealm, _⟩ := h
    simp only [CacheRecord.recognized, List.mem_cons, List.not_mem_nil, or_false] at hname
    rcases hname with hname | hname | hname | hname | hname | hname
    · exact value?_isSome_of_required? valued_text hhome hf hname
    · exact value?_isSome_of_required? valued_text henvironment hf hname
    · exact value?_isSome_of_required? valued_credentialType htype hf hname
    · exact value?_isSome_of_required? valued_text hclient hf hname
    · exact value?_isSome_of_required? valued_text hsecret hf hname
    · exact value?_isSome_of_defaulted? valued_text hrealm hf hname

instance : ValuedRecord AccountRecord where
  value?_isSome_of_ofFields? := by
    intro depth fields extra r h f hf hname
    simp only [CacheRecord.ofFields?, Option.bind_eq_bind, Option.bind_eq_some_iff] at h
    obtain ⟨_, hhome, _, henvironment, _, hrealm, _, hlocal, _, husername, _, hdisplay, _,
      hauthority, _, hclient, _⟩ := h
    simp only [CacheRecord.recognized, List.mem_cons, List.not_mem_nil, or_false] at hname
    rcases hname with hname | hname | hname | hname | hname | hname | hname | hname
    · exact value?_isSome_of_required? valued_text hhome hf hname
    · exact value?_isSome_of_required? valued_text henvironment hf hname
    · exact value?_isSome_of_defaulted? valued_text hrealm hf hname
    · exact value?_isSome_of_optional? valued_text hlocal hf hname
    · exact value?_isSome_of_optional? valued_text husername hf hname
    · exact value?_isSome_of_optional? valued_text hdisplay hf hname
    · exact value?_isSome_of_optional? valued_text hauthority hf hname
    · exact value?_isSome_of_optional? valued_text hclient hf hname

instance : ValuedRecord AppMetadataRecord where
  value?_isSome_of_ofFields? := by
    intro depth fields extra r h f hf hname
    simp only [CacheRecord.ofFields?, Option.bind_eq_bind, Option.bind_eq_some_iff] at h
    obtain ⟨_, hclient, _, henvironment, _, hfamily, _⟩ := h
    simp only [CacheRecord.recognized, List.mem_cons, List.not_mem_nil, or_false] at hname
    rcases hname with hname | hname | hname
    · exact value?_isSome_of_required? valued_text hclient hf hname
    · exact value?_isSome_of_required? valued_text henvironment hf hname
    · exact value?_isSome_of_optional? valued_text hfamily hf hname

end Kinds

/-! ### Records -/

namespace CacheRecord

variable [CacheRecord α] {depth : Nat} {tree : ParseTree} {r : α}

/-- How a record is read: from the fields of an object, and from what is left over of them. -/
theorem exists_fields_of_read? (h : read? depth tree = some r) :
    ∃ (fields : Fields) (extra : Json.Members), tree.members? depth = some fields ∧
      fields.others? (depth - 1) (recognized α) = some extra ∧
      ofFields? (depth - 1) fields extra = some r := by
  obtain ⟨fields, hfields, hrest⟩ := Option.bind_eq_some_iff.1 h
  obtain ⟨extra, hextra, hr⟩ := Option.bind_eq_some_iff.1 hrest
  exact ⟨fields, extra, hfields, hextra, hr⟩

/-- A record is read only where there is a value. -/
theorem valued_read [ValuedRecord α] :
    ParseTree.Valued depth (read? depth : ParseTree → Option α) := by
  intro tree r h
  obtain ⟨fields, extra, hfields, hextra, hr⟩ := exists_fields_of_read? h
  refine ParseTree.value?_isSome_of_members hfields ?_
  intro f hf
  by_cases hname : f.1 ∈ recognized α
  · exact ValuedRecord.value?_isSome_of_ofFields? hr hf hname
  · exact Fields.value?_isSome_of_others? hextra hf hname

/-- The unrecognized fields of a record are those of the value that it was read from. -/
theorem member?_of_read? [PersistentRecord α] {v : Json} (h : read? depth tree = some r)
    (hv : tree.value? depth = some v) {name : String} (hname : name ∉ recognized α) :
    v.member? name = (extra r).find? name := by
  obtain ⟨fields, others, hfields, hothers, hr⟩ := exists_fields_of_read? h
  obtain ⟨rfl, _⟩ := PersistentRecord.of_ofFields?_eq_some hr
  have hvalue := ParseTree.member?_of_value? hfields hv name
  rw [← Fields.find?_of_others? hothers hname] at hvalue
  exact Option.map_injective (Option.some_injective _) hvalue

end CacheRecord

/-! ### Buckets -/

namespace ParseTree

variable {depth : Nat} {read? : Nat → ParseTree → Option α} {tree : ParseTree} {v w : Json}

/-- A dictionary is read only where there is a value, if its records are. -/
theorem valued_dict (h : Valued (depth - 1) (read? (depth - 1))) :
    Valued depth (dict? depth read?) := by
  intro tree d hd
  obtain ⟨fields, hfields, hread⟩ := exists_members_of_dict? hd
  refine value?_isSome_of_members hfields ?_
  intro f hf
  obtain ⟨r, hr⟩ := Option.isSome_iff_exists.1 (hread f hf)
  exact h f.2 r hr

/-- A member of a value is the value of a member of the object. -/
theorem exists_last_of_member? {fields : Fields} (hfields : tree.members? depth = some fields)
    (hv : tree.value? depth = some v) {key : String} (h : v.member? key = some w) :
    ∃ t, Assoc.last? key fields = some t ∧ t.value? (depth - 1) = some w := by
  have hmember := member?_of_value? hfields hv key
  rw [h, Option.map_some] at hmember
  exact Option.map_eq_some_iff.1 hmember.symm

/-- What the value of a dictionary has under a key is the value of the record there. -/
theorem exists_find?_of_value {d : Dict α} (hd : tree.dict? depth read? = some d)
    (hv : tree.value? depth = some v) {key : String} (h : v.member? key = some w) :
    ∃ t r, d.find? key = some r ∧ read? (depth - 1) t = some r ∧
      t.value? (depth - 1) = some w := by
  obtain ⟨fields, hfields, _⟩ := exists_members_of_dict? hd
  obtain ⟨t, ht, hw⟩ := exists_last_of_member? hfields hv h
  have hfind := find?_of_dict? hfields hd key
  rw [ht, Option.map_some] at hfind
  obtain ⟨r, hr, hread⟩ := Option.map_eq_some_iff.1 hfind
  exact ⟨t, r, hr, hread.symm, hw⟩

end ParseTree

/-! ### Stores -/

/-- The names of the fields that records of a kind recognize. -/
def RecordKind.recognized : RecordKind → List String
  | .accessToken => CacheRecord.recognized AccessTokenRecord
  | .refreshToken => CacheRecord.recognized RefreshTokenRecord
  | .idToken => CacheRecord.recognized IdTokenRecord
  | .account => CacheRecord.recognized AccountRecord
  | .appMetadata => CacheRecord.recognized AppMetadataRecord

/-- The unrecognized fields of a record of any kind. -/
def Entry.extra : Entry → Json.Members
  | .accessToken r => CacheRecord.extra r
  | .refreshToken r => CacheRecord.extra r
  | .idToken r => CacheRecord.extra r
  | .account r => CacheRecord.extra r
  | .appMetadata r => CacheRecord.extra r

namespace Store

variable {depth : Nat} {tree : ParseTree} {s : Store} {v : Json}

/-- A store is read only where there is a value. -/
theorem valued_ofTree : ParseTree.Valued depth (ofTree? depth) := by
  intro tree s h
  unfold ofTree? at h
  simp only [Option.bind_eq_bind, Option.bind_eq_some_iff] at h
  obtain ⟨fields, hfields, _, haccess, _, hrefresh, _, hid, _, haccounts, _, happ, _, hothers,
    _⟩ := h
  refine ParseTree.value?_isSome_of_members hfields ?_
  intro f hf
  by_cases hname : f.1 ∈ sectionNames
  · simp only [sectionNames, List.mem_cons, List.not_mem_nil, or_false] at hname
    rcases hname with hname | hname | hname | hname | hname
    · exact Fields.value?_isSome_of_defaulted? (ParseTree.valued_dict CacheRecord.valued_read)
        haccess hf hname
    · exact Fields.value?_isSome_of_defaulted? (ParseTree.valued_dict CacheRecord.valued_read)
        hrefresh hf hname
    · exact Fields.value?_isSome_of_defaulted? (ParseTree.valued_dict CacheRecord.valued_read)
        hid hf hname
    · exact Fields.value?_isSome_of_defaulted? (ParseTree.valued_dict CacheRecord.valued_read)
        haccounts hf hname
    · exact Fields.value?_isSome_of_defaulted? (ParseTree.valued_dict CacheRecord.valued_read)
        happ hf hname
  · exact Fields.value?_isSome_of_others? hothers hf hname

/-- The unrecognized sections of a store are those of the value that it was read from. -/
theorem member?_of_value (h : ofTree? depth tree = some s) (hv : tree.value? depth = some v)
    {name : String} (hname : name ∉ sectionNames) : v.member? name = s.other.find? name := by
  unfold ofTree? at h
  simp only [Option.bind_eq_bind, Option.bind_eq_some_iff, Option.pure_def,
    Option.some.injEq] at h
  obtain ⟨fields, hfields, _, _, _, _, _, _, _, _, _, _, other, hothers, rfl⟩ := h
  have hvalue := ParseTree.member?_of_value? hfields hv name
  rw [← Fields.find?_of_others? hothers hname] at hvalue
  exact Option.map_injective (Option.some_injective _) hvalue

/-- Where the value has a record the store has one, with the unrecognized fields of the value. -/
theorem exists_entryAt?_of_value (h : ofTree? depth tree = some s)
    (hv : tree.value? depth = some v) {kind : RecordKind} {key : String} {record : Json}
    (hrecord : (v.member? kind.sectionName).bind (Json.member? key) = some record) :
    ∃ e, s.entryAt? kind key = some e ∧
      ∀ name ∉ kind.recognized, record.member? name = e.extra.find? name := by
  unfold ofTree? at h
  simp only [Option.bind_eq_bind, Option.bind_eq_some_iff, Option.pure_def,
    Option.some.injEq] at h
  obtain ⟨fields, hfields, accessTokens, haccess, refreshTokens, hrefresh, idTokens, hid, accounts,
    haccounts, appMetadata, happ, other, _, rfl⟩ := h
  obtain ⟨content, hsection, hmember⟩ := Option.bind_eq_some_iff.1 hrecord
  obtain ⟨t, ht, hcontent⟩ := ParseTree.exists_last_of_member? hfields hv hsection
  -- the section is not repeated, so the bucket was read from the very tree of this value
  have hbucket {α : Type} [CacheRecord α] [PersistentRecord α] {bucket : Bucket α}
      (hread : fields.defaulted? kind.sectionName .empty
        (ParseTree.dict? (depth - 1) CacheRecord.read?) = some bucket) :
      ∃ r : α, bucket.find? key = some r ∧
        ∀ name ∉ CacheRecord.recognized α,
          record.member? name = (CacheRecord.extra r).find? name := by
    obtain ⟨field, hsingle, hdict⟩ := Option.bind_eq_some_iff.1 hread
    rw [← Fields.last?_of_single? hsingle, ht] at hdict
    obtain ⟨t', r, hr, hread', hvalue⟩ := ParseTree.exists_find?_of_value hdict hcontent hmember
    exact ⟨r, hr, fun name hname => CacheRecord.member?_of_read? hread' hvalue hname⟩
  cases kind with
  | accessToken =>
    obtain ⟨r, hr, hextra⟩ := hbucket haccess
    exact ⟨.accessToken r, congrArg (Option.map _) hr, hextra⟩
  | refreshToken =>
    obtain ⟨r, hr, hextra⟩ := hbucket hrefresh
    exact ⟨.refreshToken r, congrArg (Option.map _) hr, hextra⟩
  | idToken =>
    obtain ⟨r, hr, hextra⟩ := hbucket hid
    exact ⟨.idToken r, congrArg (Option.map _) hr, hextra⟩
  | account =>
    obtain ⟨r, hr, hextra⟩ := hbucket haccounts
    exact ⟨.account r, congrArg (Option.map _) hr, hextra⟩
  | appMetadata =>
    obtain ⟨r, hr, hextra⟩ := hbucket happ
    exact ⟨.appMetadata r, congrArg (Option.map _) hr, hextra⟩

end Store

/-- A text that can be loaded is blank, or it has a value, and the store is read from the tree of
that value. -/
theorem TokenCache.exists_value_of_parse? {text : String} {s : Store} (h : parse? text = some s) :
    allBlank text = true ∨ ∃ tree v, Store.ofTree? Json.depthLimit tree = some s ∧
      tree.value? Json.depthLimit = some v ∧ Json.read? text = some v := by
  unfold parse? at h
  split at h
  · rename_i hblank
    exact .inl hblank
  · obtain ⟨tree, htree, hread⟩ := Option.bind_eq_some_iff.1 h
    obtain ⟨v, hv⟩ := Option.isSome_iff_exists.1 (Store.valued_ofTree tree s hread)
    refine .inr ⟨tree, v, hread, hv, ?_⟩
    rw [Json.read?, htree]
    exact hv

end SilentAuth
