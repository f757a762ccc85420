import SilentAuth.Proofs.Cache.Merge
import SilentAuth.Proofs.Json.Members
import SilentAuth.Proofs.Text.Numerals

/-!
# Records as their documents say them

A record is read from its own document with all recognized fields as they were written. The one
exception is the scope set of an access token, which is read as the words of its text.

* `UnixTime.read?_toJson`: reading a time.
* `CacheRecord.Written`: what it means that the fields of a record are among those of a document.
* `PersistentRecord`: what a kind of records satisfies whose fields can be read from there.
-/

namespace SilentAuth

variable {α β : Type}

/-! ### Times -/

/-- A time is read as it was written. -/
theorem UnixTime.read?_toJson (t : UnixTime) : read? (ParseTree.ofValue t.toJson) = some t := by
  rw [toJson, ParseTree.ofValue, read?]
  simp [Numeral.read?_trimBlank_write]

/-- A kind of token is read as it was written. -/
theorem CredentialType.read?_name (kind : CredentialType) (depth : Nat) :
    read? depth (ParseTree.ofValue (.string kind.name)) = some kind := by
  cases kind <;> rfl

/-! ### Kinds of records -/

/-- The fields of a record are among some fields, as they were written, and none is repeated. -/
def CacheRecord.Written [CacheRecord α] (r : α) (fields : Fields) : Prop :=
  ∀ name ∈ CacheRecord.recognized α, fields.single? name =
    some ((Assoc.find? name (CacheRecord.fields r)).map ParseTree.ofValue)

/-- A kind of records that can be read from what was written. -/
class PersistentRecord (α : Type) [CacheRecord α] extends LawfulCacheRecord α where
  /-- The record with its recognized fields as they are read. -/
  restate : α → α
  nodup_recognized : (CacheRecord.recognized α).Nodup
  names_sublist (r : α) :
    ((CacheRecord.fields r).map Prod.fst).Sublist (CacheRecord.recognized α)
  fields_eq_string (r : α) : ∀ m ∈ CacheRecord.fields r, ∃ s, m.2 = Json.string s
  extra_restate (r : α) : CacheRecord.extra (restate r) = CacheRecord.extra r
  restate_withExtra (r : α) (extra : Json.Members) :
    restate (CacheRecord.withExtra r extra) = CacheRecord.withExtra (restate r) extra
  ofFields?_of_written {depth : Nat} {r : α} {fields : Fields} {extra : Json.Members}
    (h : CacheRecord.Written r fields) :
    CacheRecord.ofFields? depth fields extra = some (CacheRecord.withExtra (restate r) extra)
  of_ofFields?_eq_some {depth : Nat} {r : α} {fields : Fields} {extra : Json.Members}
    (h : CacheRecord.ofFields? depth fields extra = some r) :
    CacheRecord.extra r = extra ∧ restate r = r

/-- A member with an optional value is found by its name. -/
theorem Json.find?_memberIfSome (key name : String) (toJson : α → Json) (value : Option α) :
    Assoc.find? key (memberIfSome name toJson value) =
      if name = key then value.map toJson else none := by
  cases value <;> simp [memberIfSome, Assoc.find?]

/-- A member with an optional value has one name at most. -/
theorem Json.names_memberIfSome (name : String) (toJson : α → Json) (value : Option α) :
    ((memberIfSome name toJson value).map Prod.fst).Sublist [name] := by
  cases value <;> simp [memberIfSome]

/-- A member with an optional value holds a text if every value is written as a text. -/
theorem Json.memberIfSome_eq_string {name : String} {toJson : α → Json} (value : Option α)
    (h : ∀ v, ∃ s, toJson v = .string s) :
    ∀ m ∈ memberIfSome name toJson value, ∃ s, m.2 = Json.string s := by
  cases value with
  | none => simp [memberIfSome]
  | some v => simpa [memberIfSome] using h v

namespace CacheRecord.Written

variable [CacheRecord α] {r : α} {fields : Fields}

/-- A recognized field of a record that was written is found as it was written, and found once. -/
theorem single? (h : Written r fields) {name : String} {value : Option Json}
    (hname : name ∈ CacheRecord.recognized α)
    (hvalue : Assoc.find? name (CacheRecord.fields r) = value) :
    fields.single? name = some (value.map ParseTree.ofValue) := by
  rw [h name hname, hvalue]

/-- A field that has to be there is read from its text. -/
theorem required? (h : Written r fields) {name s : String} {read? : ParseTree → Option β} {v : β}
    (hname : name ∈ CacheRecord.recognized α)
    (hvalue : Assoc.find? name (CacheRecord.fields r) = some (.string s))
    (hread : read? (ParseTree.ofValue (.string s)) = some v) :
    fields.required? name read? = some v :=
  Fields.required?_of_some (h.single? hname hvalue) hread

/-- A field with a default is read from its text. -/
theorem defaulted? (h : Written r fields) {name s default : String}
    (hname : name ∈ CacheRecord.recognized α)
    (hvalue : Assoc.find? name (CacheRecord.fields r) = some (.string s)) :
    fields.defaulted? name default ParseTree.text? = some s :=
  Fields.defaulted?_of_some (h.single? hname hvalue) rfl

/-- A field that may be left out is read from its text, if there is one. -/
theorem optional? (h : Written r fields) {name : String} (toJson : β → Json)
    {read? : ParseTree → Option β} {value : Option β} (hname : name ∈ CacheRecord.recognized α)
    (hvalue : Assoc.find? name (CacheRecord.fields r) = value.map toJson)
    (hread : ∀ v, ∃ s, toJson v = .string s ∧ read? (ParseTree.ofValue (.string s)) = some v) :
    fields.optional? name read? = some value :=
  Fields.optional?_of_texts (h.single? hname hvalue) hread

end CacheRecord.Written

/-! ### Access tokens -/

instance : PersistentRecord AccessTokenRecord where
  restate r := { r with target := .ofText r.target.text }
  nodup_recognized := by decide
  names_sublist r := by
    simp only [CacheRecord.fields, List.map_append]
    exact ((List.Sublist.refl ["home_account_id", "environment", "credential_type", "client_id",
      "secret", "realm", "target", "cached_at", "expires_on"]).append
        (Json.names_memberIfSome _ _ _)).append (Json.names_memberIfSome _ _ _)
  fields_eq_string r := by
    intro m hm
    simp only [CacheRecord.fields, List.mem_append] at hm
    rcases hm with (hm | hm) | hm
    · simp only [List.mem_cons, List.not_mem_nil, or_false] at hm
      rcases hm with rfl | rfl | rfl | rfl | rfl | rfl | rfl | rfl | rfl <;> exact ⟨_, rfl⟩
    · exact Json.memberIfSome_eq_string _ (fun _ => ⟨_, rfl⟩) m hm
    · exact Json.memberIfSome_eq_string _ (fun _ => ⟨_, rfl⟩) m hm
  extra_restate _ := rfl
  restate_withExtra _ _ := rfl
  ofFields?_of_written := by
    intro depth r fields extra h
    have hhome : fields.defaulted? "home_account_id" "" ParseTree.text? = some r.homeAccountId :=
      h.defaulted? (by decide) rfl
    have henvironment : fields.required? "environment" ParseTree.text? = some r.environment :=
      h.required? (by decide) rfl rfl
    have htype : fields.required? "credential_type" (CredentialType.read? depth) =
        some r.credentialType :=
      h.required? (by decide) rfl (CredentialType.read?_name _ _)
    have hclient : fields.required? "client_id" ParseTree.text? = some r.clientId :=
      h.required? (by decide) rfl rfl
    have hsecret : fields.required? "secret" ParseTree.text? = some r.secret :=
      h.required? (by decide) rfl rfl
    have hrealm : fields.defaulted? "realm" "" ParseTree.text? = some r.realm :=
      h.defaulted? (by decide) rfl
    have htarget : fields.required? "target" Scopes.read? = some (.ofText r.target.text) :=
      h.required? (by decide) rfl rfl
    have hcached : fields.required? "cached_at" UnixTime.read? = some r.cachedAt :=
      h.required? (by decide) rfl r.cachedAt.read?_toJson
    have hexpires : fields.required? "expires_on" UnixTime.read? = some r.expiresOn :=
      h.required? (by decide) rfl r.expiresOn.read?_toJson
    have hextended : fields.optional? "extended_expires_on" UnixTime.read? =
        some r.extendedExpiresOn := by
      refine h.optional? UnixTime.toJson (by decide) ?_ fun t => ⟨_, rfl, t.read?_toJson⟩
      simp [CacheRecord.fields, Json.find?_memberIfSome, Assoc.find?, Assoc.find?_append]
    have hrefresh : fields.optional? "refresh_on" UnixTime.read? = some r.refreshOn := by
      refine h.optional? UnixTime.toJson (by decide) ?_ fun t => ⟨_, rfl, t.read?_toJson⟩
      simp [CacheRecord.fields, Json.find?_memberIfSome, Assoc.find?, Assoc.find?_append]
    simp only [CacheRecord.ofFields?, hhome, henvironment, htype, hclient, hsecret, hrealm, htarget,
      hcached, hexpires, hextended, hrefresh]
    rfl
  of_ofFields?_eq_some := by
    intro depth r fields extra h
    simp only [CacheRecord.ofFields?, Option.bind_eq_bind, Option.bind_eq_some_iff,
      Option.pure_def, Option.some.injEq] at h
    obtain ⟨_, _, _, _, _, _, _, _, _, _, _, _, target, htarget, _, _, _, _, _, _, _, _, rfl⟩ := h
    obtain ⟨field, _, hread⟩ := Option.bind_eq_some_iff.1 htarget
    have hwords : Scopes.ofText target.text = target := by
      cases field with
      | none => cases hread
      | some tree =>
        obtain ⟨text, _, rfl⟩ := Option.map_eq_some_iff.1 hread
        exact Scopes.ofText_text_ofText text
    exact ⟨rfl, by rw [hwords]⟩

/-! ### Refresh tokens -/

instance : PersistentRecord RefreshTokenRecord where
  restate r := r
  nodup_recognized := by decide
  names_sublist r :=
    (List.Sublist.refl ["home_account_id", "environment", "credential_type", "client_id",
      "secret"]).append (Json.names_memberIfSome _ _ _)
  fields_eq_string r := by
    intro m hm
    simp only [CacheRecord.fields, List.mem_append] at hm
    rcases hm with hm | hm
    · simp only [List.mem_cons, List.not_mem_nil, or_false] at hm
      rcases hm with rfl | rfl | rfl | rfl | rfl <;> exact ⟨_, rfl⟩
    · exact Json.memberIfSome_eq_string _ (fun _ => ⟨_, rfl⟩) m hm
  extra_restate _ := rfl
  restate_withExtra _ _ := rfl
  ofFields?_of_written := by
    intro depth r fields extra h
    have hhome : fields.required? "home_account_id" ParseTree.text? = some r.homeAccountId :=
      h.required? (by decide) rfl rfl
    have henvironment : fields.required? "environment" ParseTree.text? = some r.environment :=
      h.required? (by decide) rfl rfl
    have htype : fields.required? "credential_type" (CredentialType.read? depth) =
        some r.credentialType :=
      h.required? (by decide) rfl (CredentialType.read?_name _ _)
    have hclient : fields.required? "client_id" ParseTree.text? = some r.clientId :=
      h.required? (by decide) rfl rfl
    have hsecret : fields.required? "secret" ParseTree.text? = some r.secret :=
      h.required? (by decide) rfl rfl
    have hfamily : fields.optional? "family_id" ParseTree.text? = some r.familyId := by
      refine h.optional? Json.string (by decide) ?_ fun s => ⟨s, rfl, rfl⟩
      simp [CacheRecord.fields, Json.find?_memberIfSome, Assoc.find?]
    simp only [CacheRecord.ofFields?, hhome, henvironment, htype, hclient, hsecret, hfamily]
    rfl
  of_ofFields?_eq_some := by
    intro depth r fields extra h
    simp only [CacheRecord.ofFields?, Option.bind_eq_bind, Option.bind_eq_some_iff,
      Option.pure_def, Option.some.injEq] at h
    obtain ⟨_, _, _, _, _, _, _, _, _, _, _, _, rfl⟩ := h
    exact ⟨rfl, rfl⟩

/-! ### ID tokens -/

instance : PersistentRecord IdTokenRecord where
  restate r := r
  nodup_recognized := by decide
  names_sublist _ := List.Sublist.refl _
  fields_eq_string r := by
    intro m hm
    simp only [CacheRecord.fields, List.mem_cons, List.not_mem_nil, or_false] at hm
    rcases hm with rfl | rfl | rfl | rfl | rfl | rfl <;> exact ⟨_, rfl⟩
  extra_restate _ := rfl
  restate_withExtra _ _ := rfl
  ofFields?_of_written := by
    intro depth r fields extra h
    have hhome : fields.required? "home_account_id" ParseTree.text? = some r.homeAccountId :=
      h.required? (by decide) rfl rfl
    have henvironment : fields.required? "environment" ParseTree.text? = some r.environment :=
      h.required? (by decide) rfl rfl
    have htype : fields.required? "credential_type" (CredentialType.read? depth) =
        some r.credentialType :=
      h.required? (by decide) rfl (CredentialType.read?_name _ _)
    have hclient : fields.required? "client_id" ParseTree.text? = some r.clientId :=
      h.required? (by decide) rfl rfl
    have hsecret : fields.required? "secret" ParseTree.text? = some r.secret :=
      h.required? (by decide) rfl rfl
    have hrealm : fields.defaulted? "realm" "" ParseTree.text? = some r.realm :=
      h.defaulted? (by decide) rfl
    simp only [CacheRecord.ofFields?, hhome, henvironment, htype, hclient, hsecret, hrealm]
    rfl
  of_ofFields?_eq_some := by
    intro depth r fields extra h
    simp only [CacheRecord.ofFields?, Option.bind_eq_bind, Option.bind_eq_some_iff,
      Option.pure_def, Option.some.injEq] at h
    obtain ⟨_, _, _, _, _, _, _, _, _, _, _, _, rfl⟩ := h
    exact ⟨rfl, rfl⟩

/-! ### Accounts -/

instance : PersistentRecord AccountRecord where
  restate r := r
  nodup_recognized := by decide
  names_sublist r := by
    simp only [CacheRecord.fields, List.map_append]
    exact (((((List.Sublist.refl ["home_account_id", "environment", "realm"]).append
      (Json.names_memberIfSome _ _ _)).append (Json.names_memberIfSome _ _ _)).append
        (Json.names_memberIfSome _ _ _)).append (Json.names_memberIfSome _ _ _)).append
          (Json.names_memberIfSome _ _ _)
  fields_eq_string r := by
    intro m hm
    simp only [CacheRecord.fields, List.mem_append] at hm
    rcases hm with ((((hm | hm) | hm) | hm) | hm) | hm
    · simp only [List.mem_cons, List.not_mem_nil, or_false] at hm
      rcases hm with rfl | rfl | rfl <;> exact ⟨_, rfl⟩
    all_goals exact Json.memberIfSome_eq_string _ (fun _ => ⟨_, rfl⟩) m hm
  extra_restate _ := rfl
  restate_withExtra _ _ := rfl
  ofFields?_of_written := by
    intro depth r fields extra h
    have hhome : fields.required? "home_account_id" ParseTree.text? = some r.homeAccountId :=
      h.required? (by decide) rfl rfl
    have henvironment : fields.required? "environment" ParseTree.text? = some r.environment :=
      h.required? (by decide) rfl rfl
    have hrealm : fields.defaulted? "realm" "" ParseTree.text? = some r.realm :=
      h.defaulted? (by decide) rfl
    have hoptional : ∀ {name : String} {value : Option String},
        name ∈ CacheRecord.recognized AccountRecord →
        Assoc.find? name (CacheRecord.fields r) = value.map Json.string →
          fields.optional? name ParseTree.text? = some value :=
      fun hname hvalue => h.optional? Json.string hname hvalue fun s => ⟨s, rfl, rfl⟩
    have hlocal : fields.optional? "local_account_id" ParseTree.text? = some r.localAccountId :=
      hoptional (by decide)
        (by simp [CacheRecord.fields, Json.find?_memberIfSome, Assoc.find?, Assoc.find?_append])
    have husername : fields.optional? "username" ParseTree.text? = some r.username :=
      hoptional (by decide)
        (by simp [CacheRecord.fields, Json.find?_memberIfSome, Assoc.find?, Assoc.find?_append])
    have hname : fields.optional? "name" ParseTree.text? = some r.name :=
      hoptional (by decide)
        (by simp [CacheRecord.fields, Json.find?_memberIfSome, Assoc.find?, Assoc.find?_append])
    have htype : fields.optional? "authority_type" ParseTree.text? = some r.authorityType :=
      hoptional (by decide)
        (by simp [CacheRecord.fields, Json.find?_memberIfSome, Assoc.find?, Assoc.find?_append])
    have hinfo : fields.optional? "client_info" ParseTree.text? = some r.clientInfo :=
      hoptional (by decide)
        (by simp [CacheRecord.fields, Json.find?_memberIfSome, Assoc.find?, Assoc.find?_append])
    simp only [CacheRecord.ofFields?, hhome, henvironment, hrealm, hlocal, husername, hname, htype,
      hinfo]
    rfl
  of_ofFields?_eq_some := by
    intro depth r fields extra h
    simp only [CacheRecord.ofFields?, Option.bind_eq_bind, Option.bind_eq_some_iff,
      Option.pure_def, Option.some.injEq] at h
    obtain ⟨_, _, _, _, _, _, _, _, _, _, _, _, _, _, _, _, rfl⟩ := h
    exact ⟨rfl, rfl⟩

/-! ### Applications -/

instance : PersistentRecord AppMetadataRecord where
  restate r := r
  nodup_recognized := by decide
  names_sublist r :=
    (List.Sublist.refl ["client_id", "environment"]).append (Json.names_memberIfSome _ _ _)
  fields_eq_string r := by
    intro m hm
    simp only [CacheRecord.fields, List.mem_append] at hm
    rcases hm with hm | hm
    · simp only [List.mem_cons, List.not_mem_nil, or_false] at hm
      rcases hm with rfl | rfl <;> exact ⟨_, rfl⟩
    · exact Json.memberIfSome_eq_string _ (fun _ => ⟨_, rfl⟩) m hm
  extra_restate _ := rfl
  restate_withExtra _ _ := rfl
  ofFields?_of_written := by
    intro depth r fields extra h
    have hclient : fields.required? "client_id" ParseTree.text? = some r.clientId :=
      h.required? (by decide) rfl rfl
    have henvironment : fields.required? "environment" ParseTree.text? = some r.environment :=
      h.required? (by decide) rfl rfl
    have hfamily : fields.optional? "family_id" ParseTree.text? = some r.familyId := by
      refine h.optional? Json.string (by decide) ?_ fun s => ⟨s, rfl, rfl⟩
      simp [CacheRecord.fields, Json.find?_memberIfSome, Assoc.find?]
    simp only [CacheRecord.ofFields?, hclient, henvironment, hfamily]
    rfl
  of_ofFields?_eq_some := by
    intro depth r fields extra h
    simp only [CacheRecord.ofFields?, Option.bind_eq_bind, Option.bind_eq_some_iff,
      Option.pure_def, Option.some.injEq] at h
    obtain ⟨_, _, _, _, _, _, rfl⟩ := h
    exact ⟨rfl, rfl⟩

end SilentAuth
