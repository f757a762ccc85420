import SilentAuth.Proofs.Json.Values

/-!
# Members of objects

What a tree has under a key, seen from the readers of records and dictionaries: a reader that
succeeds has read an object, and a key of the result is a key of that object.

* `ParseTree.member?`: the first member of an object with a given key.
* `ParseTree.members?_eq_some_iff`: which trees are read as a list of members.
* `ParseTree.find?_dict?_isSome_iff`: the keys of a dictionary that was read.
-/

namespace SilentAuth

variable {α β : Type}

/-- A list is read if each of its items is. -/
theorem mapM_eq_some_iff {read? : α → Option β} {items : List α} {values : List β} :
    items.mapM read? = some values ↔ items.map read? = values.map some := by
  induction items generalizing values with
  | nil =>
    cases values with
    | nil => simp
    | cons v rest => simp
  | cons item rest ih =>
    rw [List.mapM_cons, List.map_cons]
    cases values with
    | nil => simp [Option.bind_eq_some_iff]
    | cons v values =>
      simp only [Option.pure_def, Option.bind_eq_bind, Option.bind_eq_some_iff,
        Option.some.injEq, List.cons.injEq, List.map_cons, ← ih]
      constructor
      · rintro ⟨w, hw, ws, hws, rfl, rfl⟩
        exact ⟨hw, hws⟩
      · rintro ⟨hv, hvalues⟩
        exact ⟨v, hv, values, hvalues, rfl, rfl⟩

/-! ### Lists of pairs -/

namespace Assoc

/-- Something is found under a key exactly if the key is listed. -/
theorem find?_isSome_iff {key : String} {entries : List (String × α)} :
    (find? key entries).isSome = true ↔ key ∈ entries.map Prod.fst := by
  induction entries with
  | nil => simp [find?]
  | cons e rest ih =>
    by_cases h : e.1 = key
    · simp [find?, h]
    · simp [find?, h, Ne.symm h, ih]

/-- A lookup in a list whose values were changed finds the changed value. -/
theorem find?_map (f : α → β) (key : String) (entries : List (String × α)) :
    find? key (entries.map fun e => (e.1, f e.2)) = (find? key entries).map f := by
  induction entries with
  | nil => rfl
  | cons e rest ih =>
    rw [List.map_cons, find?, find?, ih]
    split <;> rfl

/-- A lookup in two lists in a row finds what the first one has, else what the second one has. -/
theorem find?_append (key : String) (first second : List (String × α)) :
    find? key (first ++ second) = (find? key first).or (find? key second) := by
  induction first with
  | nil => rfl
  | cons e rest ih => by_cases h : e.1 = key <;> simp [find?, h, ih]

/-- The first of the pairs with a key holds its value. -/
theorem find?_eq_head?_filter (key : String) (entries : List (String × α)) :
    find? key entries = (entries.filter fun e => e.1 == key).head?.map Prod.snd := by
  induction entries with
  | nil => rfl
  | cons e rest ih =>
    by_cases h : e.1 = key
    · simp [find?, h]
    · simp [find?, h, ih]

end Assoc

/-- A dictionary has the keys of the pairs that it is made of. -/
theorem Dict.find?_ofList_isSome_iff {pairs : List (String × α)} {key : String} :
    ((ofList pairs).find? key).isSome = true ↔ key ∈ pairs.map Prod.fst := by
  have hfold : ∀ d : Dict α,
      ((pairs.foldl (fun d e => d.insert e.1 e.2) d).find? key).isSome = true ↔
        (d.find? key).isSome = true ∨ key ∈ pairs.map Prod.fst := by
    induction pairs with
    | nil => simp
    | cons e rest ih =>
      intro d
      rw [List.foldl_cons, ih]
      by_cases h : key = e.1
      · simp [h]
      · simp [find?_insert_of_ne d h, h]
  rw [ofList, hfold]
  simp

namespace ParseTree

/-! ### Trees -/

/-- The first member of an object with a key. -/
def member? (key : String) : ParseTree → Option ParseTree
  | .object members => (members.find? fun m => m.1 == some key).map Prod.snd
  | _ => none

/-- The trees that are read as a list of members are the objects of these members. -/
theorem members?_eq_some_iff {depth : Nat} {tree : ParseTree}
    {fields : List (String × ParseTree)} :
    tree.members? depth = some fields ↔
      tree = .object (fields.map fun f => (some f.1, f.2)) ∧ 0 < depth := by
  cases tree with
  | object members =>
    have hmembers : (members.map fun m => m.1.map fun key => (key, m.2)) = fields.map some ↔
        members = fields.map fun f => (some f.1, f.2) := by
      induction members generalizing fields with
      | nil => cases fields <;> simp
      | cons m rest ih =>
        obtain ⟨key, tree⟩ := m
        cases fields with
        | nil => simp
        | cons f fields => cases key <;> simp [ih, Prod.ext_iff]
    rw [members?]
    split
    · simp_all
    · rename_i hdepth
      rw [mapM_eq_some_iff, hmembers, object.injEq]
      exact (and_iff_left (Nat.pos_of_ne_zero hdepth)).symm
  | _ => simp [members?]

/-- A member of an object that is made of fields is the field of this name. -/
theorem member?_object_map (fields : List (String × ParseTree)) (key : String) :
    (object (fields.map fun f => (some f.1, f.2))).member? key = Assoc.find? key fields := by
  rw [member?]
  induction fields with
  | nil => rfl
  | cons f rest ih =>
    by_cases h : f.1 = key
    · simp [Assoc.find?, h]
    · rw [List.map_cons, List.find?_cons_of_neg (by simpa using h), ih, Assoc.find?, if_neg h]

/-- The tree of members is made member by member. -/
theorem ofMemberValues_eq_map (members : List (String × Json)) :
    ofMemberValues members =
      (members.map fun m => (m.1, ofValue m.2)).map fun f => (some f.1, f.2) := by
  induction members with
  | nil => rfl
  | cons m rest ih =>
    obtain ⟨key, value⟩ := m
    rw [ofMemberValues, ih]
    rfl

/-- The members of the tree of a value say the members of the value. -/
theorem member?_ofValue (key : String) (v : Json) :
    (ofValue v).member? key = (v.member? key).map ofValue := by
  cases v with
  | object members =>
    rw [ofValue, ofMemberValues_eq_map, member?_object_map, Assoc.find?_map]
    rfl
  | _ => rfl

/-! ### Dictionaries -/

/-- A dictionary that was read has the keys of the object that it was read from. -/
theorem find?_dict?_isSome_iff {depth : Nat} {read? : Nat → ParseTree → Option α}
    {tree : ParseTree} {d : Dict α} (h : tree.dict? depth read? = some d) (key : String) :
    (d.find? key).isSome = true ↔ (tree.member? key).isSome = true := by
  unfold dict? at h
  simp only [Option.bind_eq_bind, Option.bind_eq_some_iff, Option.pure_def,
    Option.some.injEq] at h
  obtain ⟨members, hmembers, pairs, hpairs, rfl⟩ := h
  obtain ⟨rfl, _⟩ := members?_eq_some_iff.1 hmembers
  have hkeys : pairs.map Prod.fst = members.map Prod.fst := by
    clear hmembers
    rw [mapM_eq_some_iff] at hpairs
    induction members generalizing pairs with
    | nil =>
      cases pairs with
      | nil => rfl
      | cons p pairs => simp at hpairs
    | cons m rest ih =>
      cases pairs with
      | nil => simp at hpairs
      | cons p pairs =>
        simp only [List.map_cons, List.cons.injEq, Option.map_eq_some_iff] at hpairs
        obtain ⟨⟨v, _, rfl⟩, hrest⟩ := hpairs
        rw [List.map_cons, List.map_cons, ih pairs hrest]
  rw [Dict.find?_ofList_isSome_iff, member?_object_map, Assoc.find?_isSome_iff, hkeys]

end ParseTree

namespace Fields

/-! ### Fields -/

/-- A field that is not repeated is the first of its name. -/
theorem single?_eq_some {fields : Fields} {name : String} {field : Option ParseTree}
    (h : fields.single? name = some field) : Assoc.find? name fields = field := by
  rw [Assoc.find?_eq_head?_filter]
  unfold single? at h
  split at h
  · rename_i hfilter
    rw [hfilter]
    exact Option.some.inj h
  · rename_i f hfilter
    rw [hfilter]
    exact Option.some.inj h
  · cases h

/-- A field with a default is read from the first field of its name, if there is one. -/
theorem defaulted?_eq_some {fields : Fields} {name : String} {default v : α}
    {read? : ParseTree → Option α} (h : fields.defaulted? name default read? = some v) :
    (Assoc.find? name fields).elim (some default) read? = some v := by
  obtain ⟨field, hfield, hv⟩ := Option.bind_eq_some_iff.1 h
  rwa [single?_eq_some hfield]

/-- A field that has to be there is read from the first field of its name. -/
theorem required?_eq_some {fields : Fields} {name : String} {v : α} {read? : ParseTree → Option α}
    (h : fields.required? name read? = some v) : (Assoc.find? name fields).bind read? = some v := by
  obtain ⟨field, hfield, hv⟩ := Option.bind_eq_some_iff.1 h
  rw [single?_eq_some hfield]
  cases field with
  | none => cases hv
  | some tree => exact hv

/-- The pairs with a key, if no key is repeated. -/
theorem filter_eq_toList_find? {name : String} {fields : Fields}
    (h : (fields.map Prod.fst).Nodup) :
    (fields.filter fun f => f.1 == name) =
      ((Assoc.find? name fields).map fun tree => (name, tree)).toList := by
  induction fields with
  | nil => rfl
  | cons f rest ih =>
    obtain ⟨key, tree⟩ := f
    rw [List.map_cons, List.nodup_cons] at h
    by_cases hkey : key = name
    · subst hkey
      have hnone : Assoc.find? key rest = none := by
        rw [← Option.not_isSome_iff_eq_none, Assoc.find?_isSome_iff]
        exact h.1
      rw [List.filter_cons_of_pos (by simp), ih h.2, hnone]
      simp [Assoc.find?]
    · rw [List.filter_cons_of_neg (by simpa using hkey), ih h.2, Assoc.find?, if_neg hkey]

/-- A field stands once among fields without repetitions, and behind them it does not stand. -/
theorem single?_append {name : String} {first second : Fields} (hfirst : (first.map Prod.fst).Nodup)
    (hsecond : name ∉ second.map Prod.fst) :
    single? (first ++ second) name = some (Assoc.find? name first) := by
  have hnil : (second.filter fun f => f.1 == name) = [] := by
    rw [List.filter_eq_nil_iff]
    intro f hf hname
    exact hsecond (List.mem_map.2 ⟨f, hf, by simpa using hname⟩)
  rw [single?, List.filter_append, hnil, List.append_nil, filter_eq_toList_find? hfirst]
  cases Assoc.find? name first <;> rfl

/-- The unrecognized fields are the values of the members that are left over. -/
theorem others?_eq_some_iff {fields : Fields} {depth : Nat} {recognized : List String}
    {members : Json.Members} :
    fields.others? depth recognized = some members ↔
      ParseTree.memberValues? depth []
        ((fields.filter fun f => !recognized.contains f.1).map fun f => (some f.1, f.2)) =
          some members.entries := by
  unfold others?
  split
  · rename_i entries hentries
    rw [Option.some.injEq, Json.Members.ext_entries_iff]
    exact ⟨fun h => hentries.trans (congrArg some h),
      fun h => Option.some.inj (hentries.symm.trans h)⟩
  · rename_i hnone
    rw [hnone]
    simp

/-! ### Readers of fields -/

variable {fields : Fields} {name : String} {read? : ParseTree → Option α}

/-- A field that occurs once and can be read is read where it is required. -/
theorem required?_of_some {tree : ParseTree} {v : α} (h : fields.single? name = some (some tree))
    (hread : read? tree = some v) : fields.required? name read? = some v := by
  simp [required?, h, hread]

/-- So it is where there is a default for it. -/
theorem defaulted?_of_some {default v : α} {tree : ParseTree}
    (h : fields.single? name = some (some tree)) (hread : read? tree = some v) :
    fields.defaulted? name default read? = some v := by
  simp [defaulted?, h, hread]

/-- A value that may be left out is read from its text, if there is one. -/
theorem optional?_of_texts {toJson : α → Json} {value : Option α}
    (h : fields.single? name = some ((value.map toJson).map ParseTree.ofValue))
    (hread : ∀ v, ∃ s, toJson v = .string s ∧
      read? (ParseTree.ofValue (.string s)) = some v) :
    fields.optional? name read? = some value := by
  cases value with
  | none => simp [optional?, defaulted?, h]
  | some v =>
    obtain ⟨s, hs, hv⟩ := hread v
    rw [Option.map_some, Option.map_some, hs] at h
    refine defaulted?_of_some h ?_
    rw [ParseTree.ofValue] at hv ⊢
    simp [ParseTree.option?, hv]

end Fields

end SilentAuth
