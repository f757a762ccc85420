import SilentAuth.Cache.Store
import SilentAuth.Proofs.Dict.Filter

/-!
# What merging keeps

Merging dictionaries key by key is one operation on ascending lists of pairs, for buckets and for
JSON objects alike. What is merged with itself stays as it is.

* `Assoc.find?_mergeWith`: the lookups after a merge.
* `Json.merge_self`, `CacheRecord.merge_self`, `Store.merge_self`: merging with itself changes
  nothing.
* `Bucket.find?_merge`: what a merged bucket holds under a key.
-/

namespace SilentAuth

variable {α : Type}

/-! ### Lists of pairs -/

namespace Assoc

/-- Stores every pair of `update`, each joined with the value stored under its key, if any. -/
def mergeWith (join : α → α → α) (entries update : List (String × α)) : List (String × α) :=
  update.foldl
    (fun stored e => insert e.1 ((find? e.1 stored).elim e.2 (join · e.2)) stored) entries

/-- The value under a key after a merge is the one of `update`, joined with the old one if there is
one; keys that `update` does not have keep their values. -/
theorem find?_mergeWith (join : α → α → α) {entries update : List (String × α)}
    (h : Ascending update) (key : String) :
    find? key (mergeWith join entries update) =
      match find? key update with
      | none => find? key entries
      | some v => some ((find? key entries).elim v (join · v)) := by
  induction update generalizing entries with
  | nil => rfl
  | cons e rest ih =>
    obtain ⟨k, v⟩ := e
    obtain ⟨hk, hrest⟩ := List.pairwise_cons.1 h
    unfold mergeWith at ih ⊢
    rw [List.foldl_cons, ih hrest, find?]
    by_cases hkey : k = key
    · -- the key does not occur again in the rest
      subst hkey
      rw [find?_eq_none_of_forall_lt hk, if_pos rfl, find?_insert_self]
    · rw [if_neg hkey, find?_insert_of_ne (Ne.symm hkey)]

/-- A list still ascends after another one was merged into it. -/
theorem ascending_mergeWith (join : α → α → α) {entries : List (String × α)}
    (h : Ascending entries) (update : List (String × α)) :
    Ascending (mergeWith join entries update) := by
  induction update generalizing entries with
  | nil => exact h
  | cons e rest ih => exact ih (ascending_insert h)

/-- A list merged with itself stays, if the joining keeps its values. -/
theorem mergeWith_self {join : α → α → α} {entries : List (String × α)} (h : Ascending entries)
    (hjoin : ∀ e ∈ entries, join e.2 e.2 = e.2) : mergeWith join entries entries = entries := by
  refine eq_of_find?_eq (ascending_mergeWith join h entries) h ?_
  intro key
  rw [find?_mergeWith join h]
  cases hfind : find? key entries with
  | none => rfl
  | some v => exact congrArg some (hjoin (key, v) (mem_of_find?_eq_some hfind))

end Assoc

/-! ### Dictionaries -/

namespace Dict

/-- Dictionaries are merged as their lists of pairs. -/
theorem entries_mergeWith (join : α → α → α) (d update : Dict α) :
    (mergeWith join d update).entries = Assoc.mergeWith join d.entries update.entries := by
  unfold mergeWith Assoc.mergeWith
  generalize update.entries = pairs
  induction pairs generalizing d with
  | nil => rfl
  | cons e rest ih =>
    rw [List.foldl_cons, List.foldl_cons, ih]
    rfl

/-- The value under a key after a merge of dictionaries. -/
theorem find?_mergeWith (join : α → α → α) (d update : Dict α) (key : String) :
    (mergeWith join d update).find? key =
      match update.find? key with
      | none => d.find? key
      | some v => some ((d.find? key).elim v (join · v)) := by
  unfold find?
  rw [entries_mergeWith]
  exact Assoc.find?_mergeWith join update.ascending key

end Dict

/-! ### Values -/

namespace Json

/-- The members of two objects are merged as lists of pairs. -/
theorem mergeMembers_eq_mergeWith : ∀ entries update : List (String × Json),
    mergeMembers entries update = Assoc.mergeWith merge entries update
  | _, [] => by rw [mergeMembers, Assoc.mergeWith, List.foldl_nil]
  | entries, (key, value) :: rest => by
    rw [mergeMembers, Assoc.mergeWith, List.foldl_cons]
    split
    · rename_i present hpresent
      rw [mergeMembers_eq_mergeWith _ rest, hpresent]
      rfl
    · rename_i habsent
      rw [mergeMembers_eq_mergeWith _ rest, habsent]
      rfl

/-- A canonical value merged with itself stays. -/
theorem merge_self {v : Json} (h : v.Canonical) : merge v v = v := by
  induction h with
  | null => rfl
  | bool b => rfl
  | number n => rfl
  | string s => rfl
  | array _ _ => rfl
  | object ascending _ ih =>
    rw [merge, mergeMembers_eq_mergeWith, Assoc.mergeWith_self ascending ih]

/-- Canonical members merged with themselves stay. -/
theorem Members.merge_self (m : Members) : m.merge m = m := by
  apply Members.ext_entries
  have h := Json.merge_self m.canonical
  rw [Json.merge] at h
  exact Json.object.inj h

end Json

/-! ### Records -/

/-- A kind of records whose unrecognized fields are a part of their own. -/
class LawfulCacheRecord (α : Type) [CacheRecord α] : Prop where
  withExtra_extra (r : α) : CacheRecord.withExtra r (CacheRecord.extra r) = r
  extra_withExtra (r : α) (extra : Json.Members) :
    CacheRecord.extra (CacheRecord.withExtra r extra) = extra
  withExtra_withExtra (r : α) (extra extra' : Json.Members) :
    CacheRecord.withExtra (CacheRecord.withExtra r extra) extra' = CacheRecord.withExtra r extra'
  fields_withExtra (r : α) (extra : Json.Members) :
    CacheRecord.fields (CacheRecord.withExtra r extra) = CacheRecord.fields r
  key_withExtra (r : α) (extra : Json.Members) :
    CacheRecord.key (CacheRecord.withExtra r extra) = CacheRecord.key r

instance : LawfulCacheRecord AccessTokenRecord where
  withExtra_extra _ := rfl
  extra_withExtra _ _ := rfl
  withExtra_withExtra _ _ _ := rfl
  fields_withExtra _ _ := rfl
  key_withExtra _ _ := rfl

instance : LawfulCacheRecord RefreshTokenRecord where
  withExtra_extra _ := rfl
  extra_withExtra _ _ := rfl
  withExtra_withExtra _ _ _ := rfl
  fields_withExtra _ _ := rfl
  key_withExtra _ _ := rfl

instance : LawfulCacheRecord IdTokenRecord where
  withExtra_extra _ := rfl
  extra_withExtra _ _ := rfl
  withExtra_withExtra _ _ _ := rfl
  fields_withExtra _ _ := rfl
  key_withExtra _ _ := rfl

instance : LawfulCacheRecord AccountRecord where
  withExtra_extra _ := rfl
  extra_withExtra _ _ := rfl
  withExtra_withExtra _ _ _ := rfl
  fields_withExtra _ _ := rfl
  key_withExtra _ _ := rfl

instance : LawfulCacheRecord AppMetadataRecord where
  withExtra_extra _ := rfl
  extra_withExtra _ _ := rfl
  withExtra_withExtra _ _ _ := rfl
  fields_withExtra _ _ := rfl
  key_withExtra _ _ := rfl

variable [CacheRecord α]

/-- A record joined with itself stays. -/
theorem CacheRecord.merge_self [LawfulCacheRecord α] (r : α) : CacheRecord.merge r r = r := by
  rw [CacheRecord.merge, Json.Members.merge_self, LawfulCacheRecord.withExtra_extra]

/-! ### Buckets -/

namespace Bucket

/-- What a merged bucket holds under a key: nothing if `update` holds nothing there, and otherwise
the record of `update`, joined with the old one if there is one. -/
theorem find?_merge (old update : Bucket α) (key : String) :
    (old.merge update).find? key =
      (update.find? key).map fun r => (old.find? key).elim r (CacheRecord.merge · r) := by
  rw [merge, Dict.find?_mergeWith, Dict.find?_filter]
  unfold Dict.contains
  cases update.find? key with
  | none => simp
  | some r => cases old.find? key <;> rfl

/-- A record that both buckets hold stays. -/
theorem find?_merge_of_eq [LawfulCacheRecord α] {old update : Bucket α} {key : String}
    (h : old.find? key = update.find? key) : (old.merge update).find? key = update.find? key := by
  rw [find?_merge, h]
  cases update.find? key with
  | none => rfl
  | some r => exact congrArg some (CacheRecord.merge_self r)

/-- A bucket merged with itself stays. -/
theorem merge_self [LawfulCacheRecord α] (bucket : Bucket α) : bucket.merge bucket = bucket :=
  Dict.eq_of_find?_eq fun _ => find?_merge_of_eq rfl

end Bucket

/-! ### Stores -/

/-- A store merged with itself stays. -/
theorem Store.merge_self (s : Store) : s.merge s = s := by
  simp only [Store.merge, Bucket.merge_self, Json.Members.merge_self]

end SilentAuth
