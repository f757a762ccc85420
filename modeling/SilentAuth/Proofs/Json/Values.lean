import SilentAuth.Proofs.Json.Machine
import SilentAuth.Json.Decode

/-!
# The value that a tree says

The tree of a canonical value says that value, if it may nest that deep. Reading a value from its
text changes neither its keys nor how deep it nests.

* `ParseTree.value?_ofValue`: the tree of a value says it.
* `Json.Canonical.reread`, `ParseTree.depthOf_reread`: what is read is canonical and as deep.
-/

namespace SilentAuth

variable {α : Type}

/-! ### Lists of pairs -/

namespace Assoc

/-- A pair with a greater key than all others is stored at the end. -/
theorem insert_of_forall_lt {key : String} {entries : List (String × α)}
    (h : ∀ e ∈ entries, e.1 < key) (value : α) :
    insert key value entries = entries ++ [(key, value)] := by
  induction entries with
  | nil => rfl
  | cons e rest ih =>
    obtain ⟨k, v⟩ := e
    have hk : k < key := h (k, v) List.mem_cons_self
    have hrest := ih fun e he => h e (List.mem_cons_of_mem _ he)
    have hne : ¬ key = k := by
      rintro rfl
      exact String.lt_irrefl key hk
    rw [insert, if_neg (String.lt_asymm hk), if_neg hne, hrest, List.cons_append]

/-- The order of the keys is all that counts. -/
theorem ascending_iff_keys {entries : List (String × α)} :
    Ascending entries ↔ (entries.map Prod.fst).Pairwise (· < ·) := by
  rw [List.pairwise_map]
  rfl

end Assoc

namespace Json

/-! ### Reading again -/

/-- Items are read again one by one. -/
theorem rereadItems_eq_map : ∀ items : List Json, rereadItems items = items.map reread
  | [] => rfl
  | item :: rest => by rw [rereadItems, rereadItems_eq_map rest, List.map_cons]

/-- Members are read again one by one, each under its name. -/
theorem rereadMembers_eq_map : ∀ members : List (String × Json),
    rereadMembers members = members.map fun m => (m.1, m.2.reread)
  | [] => rfl
  | (key, value) :: rest => by rw [rereadMembers, rereadMembers_eq_map rest, List.map_cons]

/-- The keys of the members stay. -/
theorem keys_rereadMembers (members : List (String × Json)) :
    (rereadMembers members).map Prod.fst = members.map Prod.fst := by
  rw [rereadMembers_eq_map, List.map_map]
  rfl

/-- Members still ascend when they are read again. -/
theorem ascending_rereadMembers {members : List (String × Json)} (h : Assoc.Ascending members) :
    Assoc.Ascending (rereadMembers members) := by
  rw [Assoc.ascending_iff_keys, keys_rereadMembers]
  exact Assoc.ascending_iff_keys.1 h

/-- A value in order is in order when it is read again. -/
theorem Canonical.reread {v : Json} (h : v.Canonical) : v.reread.Canonical := by
  induction h with
  | null => exact .null
  | bool b => exact .bool b
  | number n => exact .number n.reread
  | string s => exact .string s
  | array _ ih =>
    rw [Json.reread, rereadItems_eq_map]
    apply Canonical.array
    intro item hitem
    obtain ⟨old, hold, rfl⟩ := List.mem_map.1 hitem
    exact ih old hold
  | object ascending _ ih =>
    rw [Json.reread]
    apply Canonical.object (ascending_rereadMembers ascending)
    rw [rereadMembers_eq_map]
    intro member hmember
    obtain ⟨old, hold, rfl⟩ := List.mem_map.1 hmember
    exact ih old hold

end Json

namespace ParseTree

mutual

/-- What is read nests as deep as what was written. -/
theorem depthOf_reread : ∀ v : Json, depthOf v.reread = depthOf v
  | .null => rfl
  | .bool _ => rfl
  | .number _ => rfl
  | .string _ => rfl
  | .array items => by rw [Json.reread, depthOf, depthOf, depthOfItems_reread items]
  | .object members => by rw [Json.reread, depthOf, depthOf, depthOfMembers_reread members]

/-- Items nest as deep when they are read again. -/
theorem depthOfItems_reread : ∀ items : List Json,
    depthOfItems (Json.rereadItems items) = depthOfItems items
  | [] => rfl
  | item :: rest => by
    rw [Json.rereadItems, depthOfItems, depthOfItems, depthOf_reread item, depthOfItems_reread rest]

/-- Members nest as deep when they are read again. -/
theorem depthOfMembers_reread : ∀ members : List (String × Json),
    depthOfMembers (Json.rereadMembers members) = depthOfMembers members
  | [] => rfl
  | (key, value) :: rest => by
    rw [Json.rereadMembers, depthOfMembers, depthOfMembers, depthOf_reread value,
      depthOfMembers_reread rest]

end

/-! ### The value of a tree -/

mutual

/-- The tree of a canonical value says that value. -/
theorem value?_ofValue : ∀ {v : Json} {depth : Nat}, v.Canonical → depthOf v ≤ depth →
    (ofValue v).value? depth = some v
  | .null, _, _, _ => rfl
  | .bool _, _, _, _ => rfl
  | .number _, _, _, _ => rfl
  | .string _, _, _, _ => rfl
  | .array items, depth, hv, hdepth => by
    rw [depthOf] at hdepth
    have hitems : ∀ item ∈ items, item.Canonical := by
      cases hv
      assumption
    rw [ofValue, value?, if_neg (by omega), values?_ofValues hitems (by omega)]
    rfl
  | .object members, depth, hv, hdepth => by
    rw [depthOf] at hdepth
    cases hv with
    | object ascending hmembers =>
      have hread : memberValues? (depth - 1) [] (ofMemberValues members) = some ([] ++ members) :=
        memberValues?_ofMemberValues ascending hmembers (by omega)
      rw [ofValue, value?, if_neg (by omega), hread]
      rfl

/-- Items within the depth are read from their tree as they are. -/
theorem values?_ofValues : ∀ {items : List Json} {depth : Nat}, (∀ item ∈ items, item.Canonical) →
    depthOfItems items ≤ depth → values? depth (ofValues items) = some items
  | [], _, _, _ => rfl
  | item :: rest, depth, hitems, hdepth => by
    rw [depthOfItems] at hdepth
    have hitem := value?_ofValue (hitems item List.mem_cons_self)
      (Nat.le_trans (Nat.le_max_left _ _) hdepth)
    have hrest := values?_ofValues (fun i hi => hitems i (List.mem_cons_of_mem _ hi))
      (Nat.le_trans (Nat.le_max_right _ _) hdepth)
    rw [ofValues, values?, hitem, hrest]
    rfl

/-- Members within the depth are read from their tree as they are, behind those that are stored
already. -/
theorem memberValues?_ofMemberValues : ∀ {members : List (String × Json)} {depth : Nat}
    {stored : List (String × Json)}, Assoc.Ascending (stored ++ members) →
    (∀ m ∈ members, m.2.Canonical) → depthOfMembers members ≤ depth →
    memberValues? depth stored (ofMemberValues members) = some (stored ++ members)
  | [], _, stored, _, _, _ => by rw [ofMemberValues, memberValues?, List.append_nil]
  | (key, value) :: rest, depth, stored, hascending, hmembers, hdepth => by
    rw [depthOfMembers] at hdepth
    have hvalue := value?_ofValue (hmembers (key, value) List.mem_cons_self)
      (Nat.le_trans (Nat.le_max_left _ _) hdepth)
    have hinsert : Assoc.insert key value stored = stored ++ [(key, value)] :=
      Assoc.insert_of_forall_lt
        (fun e he => hascending.lt_of_append he (List.mem_cons_self (a := (key, value)))) value
    have hrest : memberValues? depth (stored ++ [(key, value)]) (ofMemberValues rest) =
        some (stored ++ [(key, value)] ++ rest) := memberValues?_ofMemberValues
      (by rwa [List.append_assoc, List.singleton_append])
      (fun m hm => hmembers m (List.mem_cons_of_mem _ hm))
      (Nat.le_trans (Nat.le_max_right _ _) hdepth)
    rw [List.append_assoc, List.singleton_append] at hrest
    rw [ofMemberValues, memberValues?, hvalue]
    simp only [Option.bind_eq_bind, Option.bind_some]
    rw [hinsert, hrest]

end

end ParseTree

end SilentAuth
