import SilentAuth.Cache.TokenCache
import SilentAuth.Proofs.Cache.Merge
import SilentAuth.Proofs.Json.Members

/-!
# Entries of a document

A document holds records under keys, in one section for each kind of records. An entry of a text is
what the text says there, whether or not the whole text can be loaded.

* `Store.entryAt?_merge_of_eq`: an entry that two stores share stays when they are merged.
* `entryOfText?_text`: the text of a store has the entries of the store.
* `entryOfText?_isSome_iff`: a text that can be loaded has entries where the loaded store has them.
-/

namespace SilentAuth

/-- The kinds of records. -/
inductive RecordKind where
  | accessToken
  | refreshToken
  | idToken
  | account
  | appMetadata
deriving DecidableEq

/-- The name of the section that holds the records of a kind. -/
def RecordKind.sectionName : RecordKind → String
  | .accessToken => "AccessToken"
  | .refreshToken => "RefreshToken"
  | .idToken => "IdToken"
  | .account => "Account"
  | .appMetadata => "AppMetadata"

/-- A record of any kind. -/
inductive Entry where
  | accessToken (r : AccessTokenRecord)
  | refreshToken (r : RefreshTokenRecord)
  | idToken (r : IdTokenRecord)
  | account (r : AccountRecord)
  | appMetadata (r : AppMetadataRecord)

/-- A record as it is written. -/
def Entry.toJson : Entry → Json
  | .accessToken r => CacheRecord.toJson r
  | .refreshToken r => CacheRecord.toJson r
  | .idToken r => CacheRecord.toJson r
  | .account r => CacheRecord.toJson r
  | .appMetadata r => CacheRecord.toJson r

/-- The record of a kind that a store holds under a key. -/
def Store.entryAt? (s : Store) (kind : RecordKind) (key : String) : Option Entry :=
  match kind with
  | .accessToken => (s.accessTokens.find? key).map .accessToken
  | .refreshToken => (s.refreshTokens.find? key).map .refreshToken
  | .idToken => (s.idTokens.find? key).map .idToken
  | .account => (s.accounts.find? key).map .account
  | .appMetadata => (s.appMetadata.find? key).map .appMetadata

/-- What a text says under a key in the section of a kind of records. -/
def entryOfText? (text : String) (kind : RecordKind) (key : String) : Option ParseTree := do
  (← (← ParseTree.read? text).member? kind.sectionName).member? key

/-! ### Merged stores -/

/-- An entry that two stores share stays when they are merged. -/
theorem Store.entryAt?_merge_of_eq {old update : Store} {kind : RecordKind} {key : String}
    (h : old.entryAt? kind key = update.entryAt? kind key) :
    (old.merge update).entryAt? kind key = update.entryAt? kind key := by
  have hbucket {α : Type} [CacheRecord α] [LawfulCacheRecord α] {old update : Bucket α}
      {entry : α → Entry} (hinj : Function.Injective entry)
      (h : (old.find? key).map entry = (update.find? key).map entry) :
      ((old.merge update).find? key).map entry = (update.find? key).map entry := by
    rw [Bucket.find?_merge_of_eq (Option.map_injective hinj h)]
  cases kind with
  | accessToken => exact hbucket (fun _ _ => Entry.accessToken.inj) h
  | refreshToken => exact hbucket (fun _ _ => Entry.refreshToken.inj) h
  | idToken => exact hbucket (fun _ _ => Entry.idToken.inj) h
  | account => exact hbucket (fun _ _ => Entry.account.inj) h
  | appMetadata => exact hbucket (fun _ _ => Entry.appMetadata.inj) h

/-! ### Texts of stores -/

namespace Store

/-- A member of the JSON of a bucket is the JSON of the record under the key. -/
theorem member?_bucketJson {α : Type} [CacheRecord α] (bucket : Bucket α) (key : String) :
    (bucketJson bucket).member? key = (bucket.find? key).map CacheRecord.toJson :=
  Assoc.find?_map CacheRecord.toJson key bucket.entries

/-- The document of a store has the entries of the store. -/
theorem member?_member?_toJson (s : Store) (kind : RecordKind) (key : String) :
    (s.toJson.member? kind.sectionName).bind (Json.member? key) =
      (s.entryAt? kind key).map Entry.toJson := by
  have hsection {α : Type} [CacheRecord α] (bucket : Bucket α) (entry : α → Entry)
      (hentry : ∀ r, (entry r).toJson = CacheRecord.toJson r) :
      (bucketJson bucket).member? key = ((bucket.find? key).map entry).map Entry.toJson := by
    rw [member?_bucketJson, Option.map_map]
    congr 1
    funext r
    exact (hentry r).symm
  cases kind with
  | accessToken => exact hsection s.accessTokens .accessToken fun _ => rfl
  | refreshToken => exact hsection s.refreshTokens .refreshToken fun _ => rfl
  | idToken => exact hsection s.idTokens .idToken fun _ => rfl
  | account => exact hsection s.accounts .account fun _ => rfl
  | appMetadata => exact hsection s.appMetadata .appMetadata fun _ => rfl

end Store

/-- What a text says is what was written, as it is read. -/
theorem Json.member?_reread (key : String) (v : Json) :
    v.reread.member? key = (v.member? key).map Json.reread := by
  cases v with
  | object members =>
    rw [reread, rereadMembers_eq_map]
    exact Assoc.find?_map Json.reread key members
  | _ => rfl

/-- The text of a store has the entries of the store. -/
theorem entryOfText?_text (s : Store) (kind : RecordKind) (key : String) :
    entryOfText? s.text kind key =
      (s.entryAt? kind key).map fun e => ParseTree.ofValue e.toJson.reread := by
  have hjson := Store.member?_member?_toJson s kind key
  have htree : (entryOfText? s.text kind key) =
      ((s.toJson.member? kind.sectionName).bind (Json.member? key)).map fun v =>
        ParseTree.ofValue v.reread := by
    unfold entryOfText? Store.text
    rw [ParseTree.read?_text]
    cases hsection : s.toJson.member? kind.sectionName with
    | none => simp [ParseTree.member?_ofValue, Json.member?_reread, hsection]
    | some v => simp [ParseTree.member?_ofValue, Json.member?_reread, hsection, Function.comp_def]
  rw [htree, hjson, Option.map_map]
  rfl

/-! ### Blank texts -/

namespace ParseTree

/-- No value begins with a blank character. -/
theorem Machine.beginValue?_of_isBlank {c : Char} (h : isBlank c = true) (frames : List Frame) :
    beginValue? frames c = none := by
  have hne : ∀ d : Char, isBlank d = false → c ≠ d := by
    rintro d hd rfl
    rw [h] at hd
    cases hd
  have hdigit : c.isDigit = false := by
    rw [Bool.eq_false_iff]
    intro hdigit
    have hrange : 48 ≤ c.toNat ∧ c.toNat ≤ 57 := Char.isDigit_iff_toNat.1 hdigit
    simp only [isBlank, Bool.or_eq_true, Bool.and_eq_true, decide_eq_true_eq, beq_iff_eq] at h
    omega
  have hnumber : NumberScan.start? c = none := by
    rw [NumberScan.start?, if_neg (hne '-' (by decide)), digitValue?_eq_none hdigit]
  rw [beginValue?, if_neg (hne _ (by decide)), if_neg (hne _ (by decide)),
    if_neg (hne _ (by decide)), if_neg (hne _ (by decide)), if_neg (hne _ (by decide)),
    if_neg (hne _ (by decide)), hnumber]
  rfl

/-- A blank text says nothing. -/
theorem read?_of_allBlank {text : String} (h : allBlank text = true) : read? text = none := by
  have hrun : ∀ cs : List Char, (∀ c ∈ cs, isBlank c = true) →
      (Machine.start.run cs).bind Machine.finish? = none := by
    intro cs hcs
    induction cs with
    | nil => rfl
    | cons c rest ih =>
      obtain ⟨hc, hrest⟩ := List.forall_mem_cons.1 hcs
      have hstep : Machine.start.step (some c) = some .start ∨
          Machine.start.step (some c) = none := by
        have hbetween : Machine.start.step (some c) = Machine.start.between? c := rfl
        rw [hbetween, Machine.between?]
        split
        · exact .inl rfl
        · exact .inr (Machine.beginValue?_of_isBlank hc [])
      rw [Machine.run_cons]
      rcases hstep with hstep | hstep
      · rw [hstep]
        exact ih hrest
      · rw [hstep]
        rfl
  exact hrun text.toList (List.all_eq_true.1 h)

end ParseTree

/-! ### Texts that can be loaded -/

/-- A bucket that was read has the entries of its section. -/
theorem find?_bucket_isSome_iff {α : Type} [CacheRecord α] {fields : Fields} {name : String}
    {depth : Nat} {bucket : Bucket α}
    (h : fields.defaulted? name .empty (ParseTree.dict? depth CacheRecord.read?) = some bucket)
    (key : String) {entry : α → Entry} :
    ((bucket.find? key).map entry).isSome = true ↔
      ((Assoc.find? name fields).bind (ParseTree.member? key)).isSome = true := by
  have hread := Fields.defaulted?_eq_some h
  rw [Option.isSome_map]
  cases hfield : Assoc.find? name fields with
  | none =>
    rw [hfield] at hread
    cases hread
    simp
  | some tree =>
    rw [hfield] at hread
    exact ParseTree.find?_dict?_isSome_iff hread key

/-- A store that was read has the entries of its tree. -/
theorem Store.entryAt?_isSome_iff_of_tree {depth : Nat} {tree : ParseTree} {s : Store}
    (h : ofTree? depth tree = some s) (kind : RecordKind) (key : String) :
    (s.entryAt? kind key).isSome = true ↔
      ((tree.member? kind.sectionName).bind (ParseTree.member? key)).isSome = true := by
  unfold ofTree? at h
  simp only [Option.bind_eq_bind, Option.bind_eq_some_iff, Option.pure_def,
    Option.some.injEq] at h
  obtain ⟨fields, hfields, accessTokens, haccess, refreshTokens, hrefresh, idTokens, hid,
    accounts, haccounts, appMetadata, happ, other, _, rfl⟩ := h
  obtain ⟨rfl, _⟩ := ParseTree.members?_eq_some_iff.1 hfields
  rw [ParseTree.member?_object_map]
  cases kind with
  | accessToken => exact find?_bucket_isSome_iff haccess key
  | refreshToken => exact find?_bucket_isSome_iff hrefresh key
  | idToken => exact find?_bucket_isSome_iff hid key
  | account => exact find?_bucket_isSome_iff haccounts key
  | appMetadata => exact find?_bucket_isSome_iff happ key

/-- A text that can be loaded has entries where the loaded store has them. -/
theorem entryOfText?_isSome_iff {text : String} {s : Store} (h : TokenCache.parse? text = some s)
    (kind : RecordKind) (key : String) :
    (entryOfText? text kind key).isSome = true ↔ (s.entryAt? kind key).isSome = true := by
  unfold TokenCache.parse? at h
  split at h
  · rename_i hblank
    cases h
    unfold entryOfText?
    rw [ParseTree.read?_of_allBlank hblank]
    cases kind <;> simp [Store.entryAt?, Store.empty]
  · obtain ⟨tree, htree, hread⟩ := Option.bind_eq_some_iff.1 h
    rw [Store.entryAt?_isSome_iff_of_tree hread kind key, entryOfText?, htree]
    rfl

end SilentAuth
