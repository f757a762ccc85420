import SilentAuth.Proofs.Cache.Survival

/-!
# What a merge takes from each side

A store is merged into the document that was loaded last. The store decides which records there are
and what their recognized fields say. What is not recognized, in a record that both sides have and in
the sections of the document, is merged at every depth: the store decides wherever it has a value that
is no object, and the document everywhere else.

* `Json.at?`: the value at a path of member names.
* `Json.at?_merge_of_some`, `Json.at?_merge_of_none`: what a merged value has at a path.
* `Json.Reconciles`, `Entry.Reconciles`: what has to come out of two values and of two records.
* `Store.merge_reconciles`: what comes out of two stores.
-/

namespace SilentAuth

/-! ### Values at paths -/

namespace Json

/-- Whether a value is an object. -/
def isObject : Json → Bool
  | .object _ => true
  | _ => false

/-- The value at a path of member names. -/
def at? : Json → List String → Option Json
  | v, [] => some v
  | v, name :: path => (v.member? name).bind fun inner => at? inner path

variable {v old update inner : Json} {name : String} {path : List String}

/-- A value at the end of two paths in a row is found along the one and then along the other. -/
theorem at?_append (v : Json) (front path : List String) :
    v.at? (front ++ path) = (v.at? front).bind fun inner => inner.at? path := by
  induction front generalizing v with
  | nil => rfl
  | cons name front ih =>
    rw [List.cons_append, at?, at?, Option.bind_assoc]
    congr 1
    funext inner
    exact ih inner

/-- Below a value that is no object there is nothing. -/
theorem at?_of_isObject_eq_false (h : v.isObject = false) (hpath : path ≠ []) :
    v.at? path = none := by
  obtain ⟨name, path, rfl⟩ := List.exists_cons_of_ne_nil hpath
  cases v with
  | object members => cases h
  | _ => rfl

/-- A member of a value in order is in order. -/
theorem Canonical.of_member? (h : v.Canonical) (hmember : v.member? name = some inner) :
    inner.Canonical := by
  cases v with
  | object members => exact h.of_find? hmember
  | _ => cases hmember

/-! ### Merged values -/

/-- What is no object replaces every value. -/
theorem merge_of_isObject_eq_false (h : update.isObject = false) : merge old update = update := by
  cases update with
  | object members => cases h
  | _ => cases old <;> rfl

/-- A merged value is an object exactly if the newer one is. -/
@[simp] theorem isObject_merge : (merge old update).isObject = update.isObject := by
  cases update with
  | object members =>
    cases old with
    | object present => rw [merge]; rfl
    | _ => rfl
  | _ => cases old <;> rfl

/-- A member of the newer value is joined with the one it meets. -/
theorem member?_merge_of_some (h : update.Canonical) (hmember : update.member? name = some inner) :
    (merge old update).member? name = some ((old.member? name).elim inner (merge · inner)) := by
  cases update with
  | object members =>
    cases old with
    | object present =>
      cases h with
      | object ascending _ =>
        have hfind : Assoc.find? name members = some inner := hmember
        rw [merge, member?, mergeMembers_eq_mergeWith, Assoc.find?_mergeWith merge ascending, hfind]
        rfl
    | _ => exact hmember
  | _ => cases hmember

/-- A member that a newer object does not have stays. -/
theorem member?_merge_of_none (h : update.Canonical) (hobject : update.isObject = true)
    (hmember : update.member? name = none) :
    (merge old update).member? name = old.member? name := by
  cases update with
  | object members =>
    cases old with
    | object present =>
      cases h with
      | object ascending _ =>
        have hfind : Assoc.find? name members = none := hmember
        rw [merge, member?, mergeMembers_eq_mergeWith, Assoc.find?_mergeWith merge ascending, hfind]
        rfl
    | _ => exact hmember
  | _ => cases hobject

/-- Where the newer value has something, it is joined with what it meets there. -/
theorem at?_merge_of_some (h : update.Canonical) (hv : update.at? path = some v) :
    (merge old update).at? path = some ((old.at? path).elim v (merge · v)) := by
  induction path generalizing old update with
  | nil =>
    cases hv
    rfl
  | cons name path ih =>
    obtain ⟨inner, hinner, hv⟩ := Option.bind_eq_some_iff.1 hv
    rw [at?, member?_merge_of_some h hinner, Option.bind_some, at?]
    cases old.member? name with
    | none => exact hv
    | some present => exact ih (h.of_member? hinner) hv

/-- Where the newer value has nothing, and nothing but objects on the way, the old one stays. -/
theorem at?_merge_of_none (h : update.Canonical) (hnone : update.at? path = none)
    (hway : ∀ front, front <+: path → ∀ w, update.at? front = some w → w.isObject = true) :
    (merge old update).at? path = old.at? path := by
  induction path generalizing old update with
  | nil => cases hnone
  | cons name path ih =>
    have hobject : update.isObject = true := hway [] List.nil_prefix update rfl
    rw [at?, at?]
    cases hinner : update.member? name with
    | none => rw [member?_merge_of_none h hobject hinner]
    | some inner =>
      rw [at?, hinner] at hnone
      rw [member?_merge_of_some h hinner, Option.bind_some]
      cases old.member? name with
      | none => exact hnone
      | some present =>
        refine ih (h.of_member? hinner) hnone ?_
        intro front hfront w hw
        refine hway (name :: front) (List.cons_prefix_cons.2 ⟨rfl, hfront⟩) w ?_
        rw [at?, hinner]
        exact hw

/-- A value comes out of an old and a newer one as a merge should have it. The newer one decides where
it has a value that is no object, and everywhere below; its objects are objects in the result; and
elsewhere the result has what the old one has. -/
structure Reconciles (old update result : Json) : Prop where
  replaced : ∀ path v, update.at? path = some v → v.isObject = false → result.at? path = some v
  object : ∀ path v, update.at? path = some v → v.isObject = true →
    ∃ w, result.at? path = some w ∧ w.isObject = true
  cleared : ∀ front path v, front <+: path → front ≠ path → update.at? front = some v →
    v.isObject = false → result.at? path = none
  kept : ∀ path, update.at? path = none →
    (∀ front, front <+: path → ∀ v, update.at? front = some v → v.isObject = true) →
    result.at? path = old.at? path

/-- A merged value reconciles the older one with the newer one. -/
theorem reconciles_merge (old : Json) (h : update.Canonical) :
    Reconciles old update (merge old update) := by
  have hreplaced : ∀ path v, update.at? path = some v → v.isObject = false →
      (merge old update).at? path = some v := by
    intro path v hv hobject
    rw [at?_merge_of_some h hv]
    cases old.at? path with
    | none => rfl
    | some present => exact congrArg some (merge_of_isObject_eq_false hobject)
  refine ⟨hreplaced, ?_, ?_, fun _ hnone hway => at?_merge_of_none h hnone hway⟩
  · intro path v hv hobject
    refine ⟨_, at?_merge_of_some h hv, ?_⟩
    cases old.at? path with
    | none => exact hobject
    | some present => exact isObject_merge.trans hobject
  · intro front path v hfront hne hv hobject
    obtain ⟨rest, rfl⟩ := hfront
    have hrest : rest ≠ [] := fun hnil => hne (by rw [hnil, List.append_nil])
    rw [at?_append, hreplaced front v hv hobject]
    exact at?_of_isObject_eq_false hobject hrest

/-- Members are merged as the objects that have them. -/
theorem Members.reconciles_merge (old update : Members) :
    Reconciles (.object old.entries) (.object update.entries) (.object (old.merge update).entries) := by
  have h := Json.reconciles_merge (.object old.entries) update.canonical
  rwa [Json.merge] at h

end Json

/-! ### Records and stores -/

/-- A record comes out of an old and a newer one under the same key as a merge should have it. All its
recognized fields are those of the newer one, set or unset. Its unrecognized ones are merged, and if
there is no old record, it is the newer one. -/
structure Entry.Reconciles (old : Option Entry) (update result : Entry) : Prop where
  recognized : result.bare = update.bare
  unrecognized : ∀ present, old = some present →
    Json.Reconciles (.object present.extra.entries) (.object update.extra.entries)
      (.object result.extra.entries)
  added : old = none → result = update

/-- What a merged bucket holds under a key comes out of what the two buckets hold there. -/
theorem Bucket.rel_merge {α : Type} [CacheRecord α] [LawfulCacheRecord α] (entry : α → Entry)
    (hbare : ∀ r, (entry r).bare = entry (CacheRecord.bare r))
    (hextra : ∀ r, (entry r).extra = CacheRecord.extra r) (old update : Bucket α) (key : String) :
    Option.Rel (Entry.Reconciles ((old.find? key).map entry)) ((update.find? key).map entry)
      (((old.merge update).find? key).map entry) := by
  rw [find?_merge]
  cases update.find? key with
  | none => exact .none
  | some new =>
    refine .some ?_
    cases old.find? key with
    | none => exact ⟨rfl, nofun, fun _ => rfl⟩
    | some present =>
      refine ⟨?_, ?_, nofun⟩
      · show (entry (CacheRecord.merge present new)).bare = (entry new).bare
        rw [hbare, hbare, CacheRecord.bare_merge]
      · rintro _ ⟨⟩
        show Json.Reconciles _ _ (.object (entry (CacheRecord.merge present new)).extra.entries)
        rw [hextra, hextra, hextra, CacheRecord.extra_merge]
        exact Json.Members.reconciles_merge _ _

/-- **What a merge takes from each side.** A merged store has a record under a key of a bucket exactly
if the store that was merged into the old one has; its recognized fields are those of that store. What
is not recognized, in records that both have and in the sections, is reconciled at every path. -/
theorem Store.merge_reconciles (old update : Store) :
    (∀ kind key, Option.Rel (Entry.Reconciles (old.entryAt? kind key)) (update.entryAt? kind key)
      ((old.merge update).entryAt? kind key)) ∧
    Json.Reconciles (.object old.other.entries) (.object update.other.entries)
      (.object (old.merge update).other.entries) := by
  refine ⟨?_, Json.Members.reconciles_merge _ _⟩
  intro kind key
  cases kind with
  | accessToken => exact Bucket.rel_merge .accessToken (fun _ => rfl) (fun _ => rfl) _ _ key
  | refreshToken => exact Bucket.rel_merge .refreshToken (fun _ => rfl) (fun _ => rfl) _ _ key
  | idToken => exact Bucket.rel_merge .idToken (fun _ => rfl) (fun _ => rfl) _ _ key
  | account => exact Bucket.rel_merge .account (fun _ => rfl) (fun _ => rfl) _ _ key
  | appMetadata => exact Bucket.rel_merge .appMetadata (fun _ => rfl) (fun _ => rfl) _ _ key

end SilentAuth
