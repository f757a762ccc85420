import SilentAuth.Proofs.Json.Members

/-!
# The value of an object that is read

An object of a text is read as a record or as a dictionary, and it also has a value. Where a key is
repeated the last member counts, for its value and for a dictionary alike, and a field that a record
recognizes cannot be repeated. So what a reader takes from a member is what the value says there.

* `Assoc.last?`: what the last of the pairs with a key holds.
* `ParseTree.member?_of_value?`, `ParseTree.find?_of_dict?`, `Fields.find?_of_others?`: the members of
  a value, of a dictionary and of what is left over are the last ones of the text.
* `ParseTree.value?_isSome_of_members`: an object has a value if its members have.
-/

namespace SilentAuth

variable {α β : Type}

/-! ### Repeated keys -/

namespace Assoc

/-- What the last of the pairs with a key holds. -/
def last? (key : String) (entries : List (String × α)) : Option α := find? key entries.reverse

/-- The last value under a key is one of the rest, or else the first one if it has the key. -/
theorem last?_cons (key : String) (e : String × α) (rest : List (String × α)) :
    last? key (e :: rest) = (last? key rest).or (if e.1 = key then some e.2 else none) := by
  rw [last?, List.reverse_cons, find?_append]
  rfl

/-- What does not pass a test that depends on the key alone is not looked for. -/
theorem find?_filter_of_pos {key : String} (keep : String → Bool) (h : keep key = true)
    (entries : List (String × α)) :
    find? key (entries.filter fun e => keep e.1) = find? key entries := by
  induction entries with
  | nil => rfl
  | cons e rest ih =>
    by_cases hkey : e.1 = key
    · rw [List.filter_cons_of_pos (hkey ▸ h), find?, find?, if_pos hkey, if_pos hkey]
    · rw [find?, if_neg hkey, ← ih, List.filter_cons]
      split
      · rw [find?, if_neg hkey]
      · rfl

/-- The last value under a key stays when pairs with other keys are dropped. -/
theorem last?_filter_of_pos {key : String} (keep : String → Bool) (h : keep key = true)
    (entries : List (String × α)) :
    last? key (entries.filter fun e => keep e.1) = last? key entries := by
  rw [last?, ← List.filter_reverse]
  exact find?_filter_of_pos keep h entries.reverse

/-- Pairs that are read one by one hold under a key what the last pair there is read as. -/
theorem last?_of_mapM {read? : α → Option β} {entries : List (String × α)}
    {pairs : List (String × β)}
    (h : entries.mapM (fun e => (read? e.2).map fun v => (e.1, v)) = some pairs) (key : String) :
    (last? key pairs).map some = (last? key entries).map read? := by
  have hpairs : (entries.map fun e => (e.1, read? e.2)) = pairs.map fun p => (p.1, some p.2) := by
    rw [mapM_eq_some_iff] at h
    induction entries generalizing pairs with
    | nil => cases pairs <;> simp_all
    | cons e rest ih =>
      cases pairs with
      | nil => simp at h
      | cons p pairs =>
        rw [List.map_cons, List.map_cons, List.cons.injEq] at h
        obtain ⟨v, hv, rfl⟩ := Option.map_eq_some_iff.1 h.1
        rw [List.map_cons, List.map_cons, ih h.2, hv]
  rw [last?, last?, ← find?_map, ← find?_map, List.map_reverse, List.map_reverse, hpairs]

end Assoc

/-- Of the pairs with one key a dictionary holds the last one. -/
theorem Dict.find?_ofList (pairs : List (String × α)) (key : String) :
    (ofList pairs).find? key = Assoc.last? key pairs := by
  have hfold : ∀ d : Dict α, (pairs.foldl (fun d e => d.insert e.1 e.2) d).find? key =
      (Assoc.last? key pairs).or (d.find? key) := by
    induction pairs with
    | nil =>
      intro d
      rfl
    | cons e rest ih =>
      intro d
      rw [List.foldl_cons, ih, Assoc.last?_cons]
      by_cases h : e.1 = key
      · subst h
        rw [find?_insert_self, if_pos rfl, Option.or_assoc]
        rfl
      · rw [find?_insert_of_ne d (Ne.symm h), if_neg h, Option.or_none]
  rw [ofList, hfold]
  exact Option.or_none

namespace ParseTree

/-! ### Values -/

/-- Members are stored as the values that they have. -/
theorem find?_of_memberValues? {depth : Nat} {fields : Fields} {stored ms : List (String × Json)}
    (h : memberValues? depth stored (fields.map fun f => (some f.1, f.2)) = some ms)
    (key : String) :
    (Assoc.find? key ms).map some =
      ((Assoc.last? key fields).map (value? depth)).or ((Assoc.find? key stored).map some) := by
  induction fields generalizing stored with
  | nil =>
    cases h
    rfl
  | cons f rest ih =>
    obtain ⟨v, hv, hrest⟩ : ∃ v, f.2.value? depth = some v ∧
        memberValues? depth (Assoc.insert f.1 v stored) (rest.map fun f => (some f.1, f.2)) =
          some ms := by
      simpa [memberValues?, Option.bind_eq_some_iff] using h
    rw [ih hrest, Assoc.last?_cons, Option.map_or, Option.or_assoc]
    congr 1
    by_cases hkey : f.1 = key
    · subst hkey
      rw [Assoc.find?_insert_self, if_pos rfl, Option.map_some, Option.map_some, hv]
      rfl
    · rw [Assoc.find?_insert_of_ne (Ne.symm hkey), if_neg hkey]
      rfl

/-- Members can be stored exactly if all of them have values. -/
theorem memberValues?_isSome_iff {depth : Nat} {fields : Fields} {stored : List (String × Json)} :
    (memberValues? depth stored (fields.map fun f => (some f.1, f.2))).isSome = true ↔
      ∀ f ∈ fields, (f.2.value? depth).isSome = true := by
  induction fields generalizing stored with
  | nil => simp [memberValues?]
  | cons f rest ih =>
    rw [List.map_cons, memberValues?, List.forall_mem_cons]
    cases hv : f.2.value? depth with
    | none => simp
    | some v => simpa using @ih (Assoc.insert f.1 v stored)

/-- A member of a value is the last one of the object with its key. -/
theorem member?_of_value? {depth : Nat} {tree : ParseTree} {fields : Fields} {v : Json}
    (hfields : tree.members? depth = some fields) (hv : tree.value? depth = some v) (key : String) :
    (v.member? key).map some = (Assoc.last? key fields).map (value? (depth - 1)) := by
  obtain ⟨rfl, hpos⟩ := members?_eq_some_iff.1 hfields
  rw [value?, if_neg hpos.ne'] at hv
  obtain ⟨ms, hms, rfl⟩ := Option.map_eq_some_iff.1 hv
  rw [Json.member?, find?_of_memberValues? hms key]
  exact Option.or_none

/-- An object has a value if all its members have. -/
theorem value?_isSome_of_members {depth : Nat} {tree : ParseTree} {fields : Fields}
    (hfields : tree.members? depth = some fields)
    (h : ∀ f ∈ fields, (f.2.value? (depth - 1)).isSome = true) :
    (tree.value? depth).isSome = true := by
  obtain ⟨rfl, hpos⟩ := members?_eq_some_iff.1 hfields
  rw [value?, if_neg hpos.ne', Option.isSome_map]
  exact memberValues?_isSome_iff.2 h

/-! ### Dictionaries -/

/-- A record of a dictionary is read from the last member of the object with its key. -/
theorem find?_of_dict? {depth : Nat} {read? : Nat → ParseTree → Option α} {tree : ParseTree}
    {fields : Fields} {d : Dict α} (hfields : tree.members? depth = some fields)
    (hd : tree.dict? depth read? = some d) (key : String) :
    (d.find? key).map some = (Assoc.last? key fields).map (read? (depth - 1)) := by
  unfold dict? at hd
  simp only [Option.bind_eq_bind, Option.bind_eq_some_iff, Option.pure_def,
    Option.some.injEq] at hd
  obtain ⟨_, hmembers, pairs, hpairs, rfl⟩ := hd
  rw [hfields] at hmembers
  cases hmembers
  rw [Dict.find?_ofList]
  exact Assoc.last?_of_mapM hpairs key

/-- An object that is read as a dictionary is an object, and each of its members is read. -/
theorem exists_members_of_dict? {depth : Nat} {read? : Nat → ParseTree → Option α}
    {tree : ParseTree} {d : Dict α} (h : tree.dict? depth read? = some d) :
    ∃ fields : Fields, tree.members? depth = some fields ∧
      ∀ f ∈ fields, (read? (depth - 1) f.2).isSome = true := by
  obtain ⟨fields, hfields, hrest⟩ := Option.bind_eq_some_iff.1 h
  obtain ⟨pairs, hpairs, _⟩ := Option.bind_eq_some_iff.1 hrest
  refine ⟨fields, hfields, ?_⟩
  intro f hf
  rw [mapM_eq_some_iff] at hpairs
  obtain ⟨p, _, hp⟩ := List.mem_map.1 (hpairs ▸ List.mem_map_of_mem hf)
  obtain ⟨v, hv, _⟩ := Option.map_eq_some_iff.1 hp.symm
  rw [hv]
  rfl

end ParseTree

/-! ### Fields -/

namespace Fields

variable {fields : Fields} {name : String} {f : String × ParseTree}

/-- What is left over under a name is the value of the last field of that name. -/
theorem find?_of_others? {depth : Nat} {recognized : List String} {members : Json.Members}
    (h : fields.others? depth recognized = some members) (hname : name ∉ recognized) :
    (members.find? name).map some = (Assoc.last? name fields).map (ParseTree.value? depth) := by
  have hkeep : (!recognized.contains name) = true := by simpa using hname
  have hlast := Assoc.last?_filter_of_pos (fun key => !recognized.contains key) hkeep fields
  have hvalues := ParseTree.find?_of_memberValues? (others?_eq_some_iff.1 h) name
  rw [hlast] at hvalues
  exact hvalues.trans Option.or_none

/-- What is left over has values. -/
theorem value?_isSome_of_others? {depth : Nat} {recognized : List String} {members : Json.Members}
    (h : fields.others? depth recognized = some members) (hf : f ∈ fields)
    (hname : f.1 ∉ recognized) : (f.2.value? depth).isSome = true := by
  have hvalues := ParseTree.memberValues?_isSome_iff.1
    (Option.isSome_of_eq_some (others?_eq_some_iff.1 h))
  exact hvalues f (List.mem_filter.2 ⟨hf, by simpa using hname⟩)

/-- A field that is not repeated is the last of its name. -/
theorem last?_of_single? {field : Option ParseTree} (h : fields.single? name = some field) :
    Assoc.last? name fields = field := by
  rw [Assoc.last?, Assoc.find?_eq_head?_filter, List.filter_reverse]
  unfold single? at h
  split at h
  · rename_i hfilter
    rw [hfilter]
    exact Option.some.inj h
  · rename_i f hfilter
    rw [hfilter]
    exact Option.some.inj h
  · cases h

/-- A field that is not repeated is the one that is read. -/
theorem single?_of_mem {field : Option ParseTree} (h : fields.single? name = some field)
    (hf : f ∈ fields) (hname : f.1 = name) : field = some f.2 := by
  have hmem : f ∈ fields.filter fun f => f.1 == name := List.mem_filter.2 ⟨hf, by simpa using hname⟩
  unfold single? at h
  split at h
  · rename_i hfilter
    rw [hfilter] at hmem
    cases hmem
  · rename_i g hfilter
    rw [hfilter] at hmem
    cases List.mem_singleton.1 hmem
    exact (Option.some.inj h).symm
  · cases h

variable {read? : ParseTree → Option α} {v default : α}

/-- A required field that was read can be read at every place where it occurs. -/
theorem read?_of_required? (h : fields.required? name read? = some v) (hf : f ∈ fields)
    (hname : f.1 = name) : read? f.2 = some v := by
  obtain ⟨field, hfield, hread⟩ := Option.bind_eq_some_iff.1 h
  rw [single?_of_mem hfield hf hname] at hread
  exact hread

/-- So can a field with a default. -/
theorem read?_of_defaulted? (h : fields.defaulted? name default read? = some v) (hf : f ∈ fields)
    (hname : f.1 = name) : read? f.2 = some v := by
  obtain ⟨field, hfield, hread⟩ := Option.bind_eq_some_iff.1 h
  rw [single?_of_mem hfield hf hname] at hread
  exact hread

end Fields

end SilentAuth
