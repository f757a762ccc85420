import SilentAuth.Proofs.Cache.Merge

/-!
# Merging once more changes nothing

What was merged into a document is absorbed by it: merging it again leaves every bucket, every record
and every unrecognized value as it is. Members that both sides have are joined again at every depth,
so this is shown by induction on the newer value, and then carried from members to records, buckets
and stores.

* `Assoc.mergeWith_mergeWith`: lists of pairs, if the joining absorbs their values.
* `Json.merge_merge`: values of any depth.
* `Bucket.merge_merge`: records under their keys.
* `Store.merge_absorbs`: stores.
-/

namespace SilentAuth

variable {α : Type}

/-- A list merged once more with the same pairs stays, if the joining absorbs their values: it
changes nothing where it was done before, and nothing where a value meets itself. -/
theorem Assoc.mergeWith_mergeWith {join : α → α → α} {entries update : List (String × α)}
    (h : Ascending entries) (hupdate : Ascending update)
    (hagain : ∀ e ∈ update, ∀ present, find? e.1 entries = some present →
      join (join present e.2) e.2 = join present e.2)
    (hself : ∀ e ∈ update, join e.2 e.2 = e.2) :
    mergeWith join (mergeWith join entries update) update = mergeWith join entries update := by
  have hmerged := ascending_mergeWith join h update
  refine eq_of_find?_eq (ascending_mergeWith join hmerged update) hmerged ?_
  intro key
  rw [find?_mergeWith join hupdate]
  cases hvalue : find? key update with
  | none => rfl
  | some value =>
    have hmem := mem_of_find?_eq_some hvalue
    rw [find?_mergeWith join hupdate, hvalue]
    cases hpresent : find? key entries with
    | none => exact congrArg some (hself _ hmem)
    | some present => exact congrArg some (hagain _ hmem present hpresent)

/-! ### Values -/

namespace Json

/-- A canonical value absorbs what was merged into it, at every depth. -/
theorem merge_merge {old update : Json} (hold : old.Canonical) (hupdate : update.Canonical) :
    merge (merge old update) update = merge old update := by
  induction hupdate generalizing old with
  | @object members ascending hmembers ih =>
    cases hold with
    | object ascending' hold' =>
      rw [merge, merge, mergeMembers_eq_mergeWith, mergeMembers_eq_mergeWith]
      congr 1
      -- where both sides have a member, the induction hypothesis is about its value
      exact Assoc.mergeWith_mergeWith ascending' ascending
        (fun e he present hpresent =>
          ih e he (hold' _ (Assoc.mem_of_find?_eq_some hpresent)))
        (fun e he => merge_self (hmembers e he))
    | _ =>
      -- an object that replaced something else meets itself
      exact merge_self (.object ascending hmembers)
  | _ =>
    -- what is no object replaces every value
    cases old <;> rfl

/-- Canonical members absorb what was merged into them. -/
theorem Members.merge_merge (old update : Members) :
    (old.merge update).merge update = old.merge update := by
  apply Members.ext_entries
  have h := Json.merge_merge old.canonical update.canonical
  rw [Json.merge, Json.merge] at h
  exact Json.object.inj h

end Json

/-! ### Records, buckets and stores -/

/-- A record absorbs what was joined with it. -/
theorem CacheRecord.merge_merge [CacheRecord α] [LawfulCacheRecord α] (old update : α) :
    CacheRecord.merge (CacheRecord.merge old update) update = CacheRecord.merge old update := by
  rw [CacheRecord.merge, CacheRecord.merge, LawfulCacheRecord.extra_withExtra,
    Json.Members.merge_merge]

/-- A bucket absorbs what was merged into it: the keys are those of `update` already, and each record
was joined with the one of `update`. -/
theorem Bucket.merge_merge [CacheRecord α] [LawfulCacheRecord α] (old update : Bucket α) :
    (old.merge update).merge update = old.merge update := by
  apply Dict.eq_of_find?_eq
  intro key
  rw [find?_merge, find?_merge]
  cases update.find? key with
  | none => rfl
  | some r =>
    cases old.find? key with
    | none => exact congrArg some (CacheRecord.merge_self r)
    | some present => exact congrArg some (CacheRecord.merge_merge present r)

namespace Store

/-- **Merging is absorbed, and neutral on what is there.** Merging a store into a document once more
changes nothing, and a store merged with itself stays: every bucket with its keys, every record with
its recognized and unrecognized fields, and every unrecognized section at every depth. -/
theorem merge_absorbs (old update s : Store) :
    (old.merge update).merge update = old.merge update ∧ s.merge s = s := by
  refine ⟨?_, merge_self s⟩
  simp only [merge, Bucket.merge_merge, Json.Members.merge_merge]

end Store

end SilentAuth
