import SilentAuth.Proofs.Cache.Rereading
import SilentAuth.Proofs.Cache.RoundTrip
import SilentAuth.Proofs.Cache.Valued

/-!
# Records that keep their keys

A record is read from its own document with the texts that its key is made of. There are two
exceptions. A scope with a blank in its name is read as several, which are put in order again; and a
refresh token without a family is read with one if that stands among its unrecognized fields.

* `AccessTokenRecord.key_of_read?` and its like for the other kinds of records: the key of a record
  that is read from the document of another one.
* `Entry.Steady`: records that derive the same key when they are read from their documents.
* `Issued.steady_of_written?`: records of a response whose scopes are words are steady.
-/

namespace SilentAuth

/-! ### Texts that are read -/

namespace CacheRecord

variable {α : Type} [CacheRecord α] {depth : Nat} {r r' : α}

/-- What is read from the document of a record is read from its fields. -/
theorem exists_ofFields_written
    (h : read? depth (ParseTree.ofValue (toJson r).reread) = some r') :
    ∃ extra, ofFields? (depth - 1) (written r) extra = some r' := by
  obtain ⟨_, _, hfields, _, _⟩ := exists_fields_of_read? h
  have hpos : 0 < depth := (ParseTree.members?_eq_some_iff.1 hfields).2
  rw [read?_document hpos] at h
  obtain ⟨extra, _, hr⟩ := Option.bind_eq_some_iff.1 h
  exact ⟨extra, hr⟩

variable [PersistentRecord α] {name s t default : String}

/-- A text that has to be there is read as it was written. -/
theorem text_of_required? (h : (written r).required? name ParseTree.text? = some t)
    (hfield : Assoc.find? name (fields r) = some (.string s)) : t = s := by
  have hmem := mem_written (Assoc.mem_of_find?_eq_some hfield)
  have hread : ParseTree.text? (ParseTree.ofValue (.string s)) = some t :=
    Fields.read?_of_required? h hmem rfl
  exact (Option.some.inj hread).symm

/-- A text with a default is read as it was written. -/
theorem text_of_defaulted? (h : (written r).defaulted? name default ParseTree.text? = some t)
    (hfield : Assoc.find? name (fields r) = some (.string s)) : t = s := by
  have hmem := mem_written (Assoc.mem_of_find?_eq_some hfield)
  have hread : ParseTree.text? (ParseTree.ofValue (.string s)) = some t :=
    Fields.read?_of_defaulted? h hmem rfl
  exact (Option.some.inj hread).symm

end CacheRecord

/-! ### Keys of records that are read -/

section

open CacheRecord

variable {depth : Nat}

/-- An access token derives the key that the words of its scopes give when it is read. -/
theorem AccessTokenRecord.key_of_read? {r r' : AccessTokenRecord}
    (h : read? depth (ParseTree.ofValue (toJson r).reread) = some r') :
    key r' = key (PersistentRecord.restate r) := by
  obtain ⟨extra, hr⟩ := exists_ofFields_written h
  simp only [ofFields?, Option.bind_eq_bind, Option.bind_eq_some_iff, Option.pure_def,
    Option.some.injEq] at hr
  obtain ⟨home, hhome, host, hhost, _, _, client, hclient, _, _, realm, hrealm, target, htarget,
    _, _, _, _, _, _, _, _, rfl⟩ := hr
  obtain rfl := text_of_defaulted? hhome rfl
  obtain rfl := text_of_required? hhost rfl
  obtain rfl := text_of_required? hclient rfl
  obtain rfl := text_of_defaulted? hrealm rfl
  have hfield : ("target", Json.string r.target.text) ∈ fields r :=
    Assoc.mem_of_find?_eq_some rfl
  have hwords : Scopes.read? (ParseTree.ofValue (.string r.target.text)) = some target :=
    Fields.read?_of_required? htarget (mem_written hfield) rfl
  obtain rfl := Option.some.inj hwords
  rfl

/-- A refresh token derives the same key when it is read, unless it has an unrecognized field with
the name of the family. -/
theorem RefreshTokenRecord.key_of_read? {r r' : RefreshTokenRecord}
    (h : read? depth (ParseTree.ofValue (toJson r).reread) = some r')
    (hextra : r.extra.find? "family_id" = none) : key r' = key r := by
  obtain ⟨extra, hr⟩ := exists_ofFields_written h
  simp only [ofFields?, Option.bind_eq_bind, Option.bind_eq_some_iff, Option.pure_def,
    Option.some.injEq] at hr
  obtain ⟨home, hhome, host, hhost, _, _, client, hclient, _, _, family, hfamily, rfl⟩ := hr
  obtain rfl := text_of_required? hhome rfl
  obtain rfl := text_of_required? hhost rfl
  obtain rfl := text_of_required? hclient rfl
  have hfield : Assoc.find? "family_id" (fields r) = r.familyId.map Json.string := by
    simp [fields, Json.find?_memberIfSome, Assoc.find?]
  have hsingle : (written r).single? "family_id" =
      some ((Assoc.find? "family_id" (fields r)).map ParseTree.ofValue) := single?_written hextra
  rw [hfield] at hsingle
  have hread : (written r).optional? "family_id" ParseTree.text? = some r.familyId :=
    Fields.optional?_of_texts hsingle fun s => ⟨s, rfl, rfl⟩
  obtain rfl := Option.some.inj (hread.symm.trans hfamily)
  rfl

/-- An ID token derives the same key when it is read. -/
theorem IdTokenRecord.key_of_read? {r r' : IdTokenRecord}
    (h : read? depth (ParseTree.ofValue (toJson r).reread) = some r') : key r' = key r := by
  obtain ⟨extra, hr⟩ := exists_ofFields_written h
  simp only [ofFields?, Option.bind_eq_bind, Option.bind_eq_some_iff, Option.pure_def,
    Option.some.injEq] at hr
  obtain ⟨home, hhome, host, hhost, _, _, client, hclient, _, _, realm, hrealm, rfl⟩ := hr
  obtain rfl := text_of_required? hhome rfl
  obtain rfl := text_of_required? hhost rfl
  obtain rfl := text_of_required? hclient rfl
  obtain rfl := text_of_defaulted? hrealm rfl
  rfl

/-- An account derives the same key when it is read. -/
theorem AccountRecord.key_of_read? {r r' : AccountRecord}
    (h : read? depth (ParseTree.ofValue (toJson r).reread) = some r') : key r' = key r := by
  obtain ⟨extra, hr⟩ := exists_ofFields_written h
  simp only [ofFields?, Option.bind_eq_bind, Option.bind_eq_some_iff, Option.pure_def,
    Option.some.injEq] at hr
  obtain ⟨home, hhome, host, hhost, realm, hrealm, _, _, _, _, _, _, _, _, _, _, rfl⟩ := hr
  obtain rfl := text_of_required? hhome rfl
  obtain rfl := text_of_required? hhost rfl
  obtain rfl := text_of_defaulted? hrealm rfl
  rfl

/-- What is known about an application derives the same key when it is read. -/
theorem AppMetadataRecord.key_of_read? {r r' : AppMetadataRecord}
    (h : read? depth (ParseTree.ofValue (toJson r).reread) = some r') : key r' = key r := by
  obtain ⟨extra, hr⟩ := exists_ofFields_written h
  simp only [ofFields?, Option.bind_eq_bind, Option.bind_eq_some_iff, Option.pure_def,
    Option.some.injEq] at hr
  obtain ⟨client, hclient, host, hhost, _, _, rfl⟩ := hr
  obtain rfl := text_of_required? hclient rfl
  obtain rfl := text_of_required? hhost rfl
  rfl

end

/-! ### Steady records -/

namespace Entry

/-- A record is steady if it derives the same key when it is read from its document: an access token
if the words of its scopes give the same key, a refresh token if it has no unrecognized field with the
name of the family. -/
def Steady : Entry → Prop
  | accessToken r => CacheRecord.key (PersistentRecord.restate r) = CacheRecord.key r
  | refreshToken r => r.extra.find? "family_id" = none
  | _ => True

/-- An access token for scopes that are words is steady. -/
theorem steady_of_words {r : AccessTokenRecord} (h : ∀ name ∈ r.target.names, IsWord name) :
    Steady (accessToken r) := by
  have hrestate : PersistentRecord.restate r = r := by
    show { r with target := Scopes.ofText r.target.text } = r
    rw [Scopes.ofText_text h]
  rw [Steady, hrestate]

/-- Whatever is read is steady. -/
theorem steady_of_read? {kind : RecordKind} {depth : Nat} {tree : ParseTree} {e : Entry}
    (h : read? kind depth tree = some e) : e.Steady := by
  cases kind <;> obtain ⟨r, hr, rfl⟩ := Option.map_eq_some_iff.1 h
  case accessToken =>
    rw [Steady, (CacheRecord.of_read?_eq_some hr).2]
  case refreshToken =>
    rw [Steady, ← Option.not_isSome_iff_eq_none, Json.Members.find?, Assoc.find?_isSome_iff]
    intro hmem
    obtain ⟨m, hm, hname⟩ := List.mem_map.1 hmem
    exact (CacheRecord.of_read?_eq_some hr).1.unrecognized m hm (by rw [hname]; decide)
  all_goals trivial

/-- The unrecognized fields of a record do not count for its key. -/
theorem key_bare (e : Entry) : e.bare.key = e.key := by
  cases e <;> exact CacheRecord.key_bare _

/-- A steady record derives the same key when it is read from its document. -/
theorem key_of_read? {kind : RecordKind} {depth : Nat} {e e' : Entry} (hkind : e.kind = kind)
    (h : read? kind depth (ParseTree.ofValue e.toJson.reread) = some e') (hsteady : e.Steady) :
    e'.key = e.key := by
  subst hkind
  cases e <;> obtain ⟨r', hr', rfl⟩ := Option.map_eq_some_iff.1 h
  case accessToken r => exact (AccessTokenRecord.key_of_read? hr').trans hsteady
  case refreshToken r => exact RefreshTokenRecord.key_of_read? hr' hsteady
  case idToken r => exact IdTokenRecord.key_of_read? hr'
  case account r => exact AccountRecord.key_of_read? hr'
  case appMetadata r => exact AppMetadataRecord.key_of_read? hr'

end Entry

/-- What is written for a response is steady if the scopes of the access token are words. -/
theorem Issued.steady_of_written? {i : Issued} {kind : RecordKind} {w : Entry}
    (hw : i.written? kind = some w) (h : ∀ name ∈ i.target.names, IsWord name) : w.Steady := by
  cases kind with
  | accessToken =>
    cases hw
    exact Entry.steady_of_words h
  | refreshToken =>
    obtain ⟨secret, _, rfl⟩ := Option.map_eq_some_iff.1 hw
    exact rfl
  | idToken =>
    obtain ⟨secret, _, rfl⟩ := Option.map_eq_some_iff.1 hw
    trivial
  | account =>
    obtain ⟨_, hw⟩ := Option.ite_none_left_eq_some.1 hw
    cases hw
    trivial
  | appMetadata =>
    cases hw
    trivial

end SilentAuth
