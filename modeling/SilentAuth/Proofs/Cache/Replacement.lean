import SilentAuth.Cache.Store
import SilentAuth.Proofs.Dict.Filter

/-!
# Records that replace others

A bucket may hold records under keys that they do not derive, since other programs derive keys in
their own ways. So a record that is stored can meet two others: the one that stands under its key, and
those that derive its key and stand elsewhere. It takes the place of all of them and of nothing else.

* `Bucket.find?_put`: what a bucket holds after a record was stored.
* `Bucket.put_put_of_key_eq`, `Bucket.put_comm`: storing two records, with one key or with two.
* `Bucket.put_sole_of_key`: storing a record in any bucket.
-/

namespace SilentAuth

namespace Bucket

open CacheRecord (key)

variable {α : Type} [CacheRecord α] {r r' : α}

/-- Under its key there is the record that was stored, and everywhere else what was there, unless it
derives that key. -/
theorem find?_put (bucket : Bucket α) (r : α) (stored : String) :
    (bucket.put r).find? stored =
      if stored = key r then some r
      else (bucket.find? stored).filter fun existing => key existing != key r := by
  split
  · rename_i hstored
    rw [hstored, find?_put_self]
  · rename_i hstored
    exact find?_put_of_ne bucket hstored

/-- A record replaces one that derives the same key. -/
theorem put_put_of_key_eq (bucket : Bucket α) (h : key r = key r') :
    (bucket.put r).put r' = bucket.put r' := by
  apply Dict.eq_of_find?_eq
  intro stored
  simp only [find?_put, h]
  split
  · rfl
  · simp [Option.filter_filter]

/-- A record stays beside one that derives another key. -/
theorem find?_put_put_of_key_ne (bucket : Bucket α) (h : key r ≠ key r') :
    ((bucket.put r).put r').find? (key r) = some r := by
  simp [find?_put, h]

/-- Records that derive different keys can be stored in either order. -/
theorem put_comm (bucket : Bucket α) (h : key r ≠ key r') :
    (bucket.put r).put r' = (bucket.put r').put r := by
  apply Dict.eq_of_find?_eq
  intro stored
  by_cases hr : stored = key r
  · subst hr
    rw [find?_put_put_of_key_ne bucket h, find?_put_self]
  by_cases hr' : stored = key r'
  · subst hr'
    rw [find?_put_put_of_key_ne bucket (Ne.symm h), find?_put_self]
  -- elsewhere a record stays if it derives neither of the two keys
  simp only [find?_put, if_neg hr, if_neg hr', Option.filter_filter, Bool.and_comm]

/-- **Storing a record in any bucket.** Whatever keys the bucket has, the record stands under the key
that it derives afterwards; the records are gone that stood under this key or derive it, and all others
stay where they were. So one record derives this key. Of two records that derive one key, the second
one replaces the first as if that had never been stored, and two records that derive different keys can be
stored in either order. -/
theorem put_sole_of_key (bucket : Bucket α) (r : α) :
    (∀ stored v, (bucket.put r).find? stored = some v ↔
        stored = key r ∧ v = r ∨
          bucket.find? stored = some v ∧ ¬(stored = key r ∨ key v = key r)) ∧
      (bucket.put r).values.filter (fun v => key v == key r) = [r] ∧
      (∀ r', key r' = key r → (bucket.put r).put r' = bucket.put r') ∧
      ∀ r', key r' ≠ key r → (bucket.put r).put r' = (bucket.put r').put r := by
  refine ⟨?_, ?_, fun r' h => bucket.put_put_of_key_eq h.symm, fun r' h => bucket.put_comm h.symm⟩
  · intro stored v
    rw [find?_put]
    by_cases hstored : stored = key r
    · simp [hstored, eq_comm]
    · simp [hstored, Option.filter_eq_some_iff]
  · apply Dict.filter_values_eq_singleton (bucket.find?_put_self r) (by simp)
    intro stored v hv hkey
    rw [find?_put] at hv
    split at hv
    · assumption
    · rename_i hstored
      obtain ⟨_, hne⟩ := Option.filter_eq_some_iff.1 hv
      exact absurd (beq_iff_eq.1 hkey) (bne_iff_ne.1 hne)

/-! ### A bucket of another program -/

namespace Sample

/-- A refresh token of a user for a client. -/
def issued (clientId secret : String) : RefreshTokenRecord :=
  ⟨"uid-1.utid", "login.windows.net", .refreshToken, clientId, secret, none, .empty⟩

/-- A bucket whose keys are not derived: a token for the client stands under a key of its own, and under
the key that it derives there is one for another client. -/
def foreign : Bucket RefreshTokenRecord :=
  ((Dict.empty.insert "uid-1.utid-login.windows.net-refreshtoken-client--"
      (issued "client" "rotated")).insert
    "uid%2d1.utid-login.windows.net-refreshtoken-client--" (issued "other" "misplaced")).insert
    "third" (issued "third" "kept")

end Sample

/-- A new token for the client takes the place of both, and a token that stands elsewhere is kept. -/
theorem put_sole_of_key_foreign :
    key (Sample.issued "client" "rotated") = key (Sample.issued "client" "new") ∧
      key (Sample.issued "third" "kept") ≠ key (Sample.issued "client" "new") ∧
      Sample.foreign.values.map (·.secret) = ["kept", "misplaced", "rotated"] ∧
      (Sample.foreign.put (Sample.issued "client" "new")).values.map (·.secret) = ["kept", "new"] ∧
      (Sample.foreign.put (Sample.issued "client" "new")).find? "third" =
        some (Sample.issued "third" "kept") ∧
      (Sample.foreign.put (Sample.issued "client" "rotated")).put (Sample.issued "client" "new") =
        Sample.foreign.put (Sample.issued "client" "new") ∧
      (Sample.foreign.put (Sample.issued "client" "new")).put (Sample.issued "third" "newer") =
        (Sample.foreign.put (Sample.issued "third" "newer")).put (Sample.issued "client" "new") := by
  have hsame : key (Sample.issued "client" "rotated") = key (Sample.issued "client" "new") := by
    decide +kernel
  have hthird : key (Sample.issued "third" "kept") ≠ key (Sample.issued "client" "new") := by
    decide +kernel
  obtain ⟨hfind, _, _, hcomm⟩ := put_sole_of_key Sample.foreign (Sample.issued "client" "new")
  obtain ⟨_, _, htwice, _⟩ := put_sole_of_key Sample.foreign (Sample.issued "client" "rotated")
  refine ⟨hsame, hthird, by decide +kernel, by decide +kernel, ?_, ?_, ?_⟩
  · refine (hfind "third" _).2 (.inr ⟨by rfl, ?_⟩)
    rintro (hstored | hkey)
    · revert hstored
      decide +kernel
    · exact hthird hkey
  · exact htwice (Sample.issued "client" "new") hsame.symm
  · exact hcomm (Sample.issued "third" "newer") hthird

end Bucket

end SilentAuth
