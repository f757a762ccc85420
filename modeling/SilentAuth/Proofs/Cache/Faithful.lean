import SilentAuth.Proofs.Cache.Fitting

/-!
# Stores that are read exactly as they were written

A whole number is read from its text as it was written, but a double need not be. Only what a store
does not recognize holds doubles, so if these are read as they were written, and the scopes of its
access tokens are words, then the store is read from its document as it is. Saving tokens, removing
an account and merging keep that.

* `Json.Faithful`: values whose numbers are read as they were written.
* `Store.Faithful`: stores that hold no other values.
* `Store.Faithful.reread_eq`: such a store is read as it is.
* `Store.Faithful.saveResponse`, `Store.Faithful.withoutAccount`, `Store.Faithful.merge`: what
  becomes of it is such a store, too.
-/

namespace SilentAuth

variable {α : Type}

namespace Json

/-! ### Values -/

/-- Every number in the value is read as it was written. Whole numbers always are, so this is about
the doubles. -/
inductive Faithful : Json → Prop where
  | null : Faithful .null
  | bool (b : Bool) : Faithful (.bool b)
  | number {n : Number} (h : n.reread = n) : Faithful (.number n)
  | string (s : String) : Faithful (.string s)
  | array {items : List Json} (h : ∀ item ∈ items, Faithful item) : Faithful (.array items)
  | object {members : List (String × Json)} (h : ∀ member ∈ members, Faithful member.2) :
    Faithful (.object members)

/-- A value with such numbers is read as it was written. -/
theorem Faithful.reread_eq {v : Json} (h : v.Faithful) : v.reread = v := by
  induction h with
  | null => rfl
  | bool b => rfl
  | number h => exact congrArg Json.number h
  | string s => rfl
  | array _ ih =>
    rw [reread, rereadItems_eq_map, List.map_congr_left ih, List.map_id']
  | object _ ih =>
    rw [reread, rereadMembers_eq_map, List.map_congr_left fun m hm => by rw [ih m hm], List.map_id']

/-- Joining canonical values makes no new numbers. -/
theorem Faithful.merge {old update : Json} (hold : old.Faithful) (hupdate : update.Faithful)
    (hcanonical : old.Canonical) (hcanonical' : update.Canonical) :
    (merge old update).Faithful := by
  induction hcanonical' generalizing old with
  | null => cases old <;> exact hupdate
  | bool b => cases old <;> exact hupdate
  | number n => cases old <;> exact hupdate
  | string s => cases old <;> exact hupdate
  | array items _ => cases old <;> exact hupdate
  | object ascending hmembers ih =>
    cases hcanonical with
    | object ascending' hmembers' =>
      obtain _ | _ | _ | _ | _ | hfaithful := hold
      obtain _ | _ | _ | _ | _ | hfaithful' := hupdate
      rw [Json.merge, mergeMembers_eq_mergeWith]
      apply Faithful.object
      rintro ⟨key, v⟩ hv
      rcases Assoc.mem_mergeWith ascending' ascending hv with
        hv | ⟨new, hnew, rfl | ⟨present, hpresent, rfl⟩⟩
      · exact hfaithful _ hv
      · exact hfaithful' _ hnew
      · exact ih _ hnew (hfaithful _ hpresent) (hfaithful' _ hnew) (hmembers' _ hpresent)
    | _ => exact hupdate

namespace Members

/-- Every number in the members is read as it was written. -/
def Faithful (m : Members) : Prop := Json.Faithful (.object m.entries)

/-- Where there are no members there is no number that could be misread. -/
theorem faithful_empty : empty.Faithful := .object fun _ hm => absurd hm List.not_mem_nil

/-- Members whose numbers are read as they were written are read as they are. -/
theorem Faithful.reread_eq {m : Members} (h : m.Faithful) : m.reread = m := by
  apply ext_entries
  exact Json.object.inj (Json.Faithful.reread_eq h)

/-- Merging members brings in no other numbers. -/
theorem Faithful.merge {old update : Members} (hold : old.Faithful) (hupdate : update.Faithful) :
    (old.merge update).Faithful := by
  have hmerge := Json.Faithful.merge hold hupdate old.canonical update.canonical
  rwa [Json.merge] at hmerge

end Members

end Json

/-! ### Records and buckets -/

namespace CacheRecord

variable [CacheRecord α]

/-- Every number in the unrecognized fields of a record is read as it was written. -/
def Faithful (r : α) : Prop := (extra r).Faithful

/-- The recognized fields of a record hold no numbers. -/
theorem faithful_of_extra_eq_empty {r : α} (h : extra r = .empty) : Faithful r := by
  rw [Faithful, h]
  exact Json.Members.faithful_empty

/-- Merging records brings in no other numbers. -/
theorem Faithful.merge [LawfulCacheRecord α] {old update : α} (hold : Faithful old)
    (hupdate : Faithful update) : Faithful (CacheRecord.merge old update) := by
  rw [Faithful, CacheRecord.merge, LawfulCacheRecord.extra_withExtra]
  exact Json.Members.Faithful.merge hold hupdate

/-- A record with such numbers is read as it is if its recognized fields are. -/
theorem Faithful.reread_eq [PersistentRecord α] {r : α} (h : Faithful r)
    (hrestate : PersistentRecord.restate r = r) : reread r = r := by
  rw [reread, hrestate, Json.Members.Faithful.reread_eq h, LawfulCacheRecord.withExtra_extra]

end CacheRecord

/-- A bucket is read as it is if its records are. -/
theorem Bucket.reread_eq [CacheRecord α] [PersistentRecord α] {bucket : Bucket α}
    (h : ∀ r ∈ bucket.values, CacheRecord.reread r = r) :
    bucket.mapValues CacheRecord.reread = bucket := by
  apply Dict.eq_of_find?_eq
  intro key
  rw [Dict.find?_mapValues]
  cases hfind : bucket.find? key with
  | none => rfl
  | some r => exact congrArg some (h r (Dict.mem_values_iff.2 ⟨key, hfind⟩))

/-! ### Stores -/

namespace Store

/-- Every number in what a store does not recognize is read as it was written. -/
structure Faithful (s : Store) : Prop where
  records : s.Every CacheRecord.Faithful
  other : s.other.Faithful

/-- A store with such numbers is read as it is if its access tokens are. -/
theorem Faithful.reread_eq {s : Store} (h : s.Faithful) (hplain : s.Plain) : s.reread = s := by
  obtain ⟨haccess, hrefresh, hid, haccounts, happ⟩ := h.records
  unfold reread
  rw [Bucket.reread_eq fun r hr => (haccess r hr).reread_eq (hplain r hr),
    Bucket.reread_eq fun r hr => (hrefresh r hr).reread_eq rfl,
    Bucket.reread_eq fun r hr => (hid r hr).reread_eq rfl,
    Bucket.reread_eq fun r hr => (haccounts r hr).reread_eq rfl,
    Bucket.reread_eq fun r hr => (happ r hr).reread_eq rfl, h.other.reread_eq]

/-- The records of a response hold no numbers. -/
theorem Faithful.saveResponse {s : Store} (h : s.Faithful) (i : Issued) :
    (s.saveResponse i).Faithful := by
  have hother : (s.saveResponse i).other = s.other := by rw [saveResponse_eq]
  exact ⟨h.records.saveResponse .merge CacheRecord.faithful_of_extra_eq_empty i,
    hother ▸ h.other⟩

/-- Removing an account brings in no numbers. -/
theorem Faithful.withoutAccount {s : Store} (h : s.Faithful) (homeAccountId : String)
    (aliases : List String) : (s.withoutAccount homeAccountId aliases).Faithful :=
  ⟨h.records.withoutAccount homeAccountId aliases, h.other⟩

/-- Merging stores brings in no other numbers. -/
theorem Faithful.merge {old update : Store} (hold : old.Faithful) (hupdate : update.Faithful) :
    (old.merge update).Faithful :=
  ⟨hold.records.merge .merge hupdate.records, hold.other.merge hupdate.other⟩

end Store

end SilentAuth
