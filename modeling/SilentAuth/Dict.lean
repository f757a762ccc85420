/-!
# Maps keyed by text, in key order

`Assoc` holds the operations on lists of pairs that ascend strictly by key, where keys are ordered
by code points; JSON objects nest such lists. `Dict` bundles one with the proof of its order. Main
statements: what `find?` gives after `insert` and `filter`, and that two dictionaries with the same
lookups are equal.
-/

namespace SilentAuth

variable {α β : Type}

/-! ### Lists of pairs -/

namespace Assoc

/-- The keys ascend strictly, so no key occurs twice. -/
def Ascending (entries : List (String × α)) : Prop := entries.Pairwise (fun a b => a.1 < b.1)

instance (entries : List (String × α)) : Decidable (Ascending entries) :=
  inferInstanceAs (Decidable (entries.Pairwise _))

/-- The value stored under a key. -/
def find? (key : String) : List (String × α) → Option α
  | [] => none
  | (k, v) :: rest => if k = key then some v else find? key rest

/-- Stores a value under a key, in place of the one stored there. -/
def insert (key : String) (value : α) : List (String × α) → List (String × α)
  | [] => [(key, value)]
  | (k, v) :: rest =>
    if key < k then (key, value) :: (k, v) :: rest
    else if key = k then (key, value) :: rest
    else (k, v) :: insert key value rest

/-- What a list holds after a pair was inserted is the pair, or was there before. -/
theorem mem_insert {key : String} {value : α} {x : String × α} {entries : List (String × α)}
    (h : x ∈ insert key value entries) : x = (key, value) ∨ x ∈ entries := by
  induction entries with
  | nil => simpa [insert] using h
  | cons e rest ih =>
    obtain ⟨k, v⟩ := e
    rw [insert] at h
    split at h
    · simpa using h
    · split at h
      · rcases List.mem_cons.1 h with rfl | h
        · exact .inl rfl
        · exact .inr (List.mem_cons_of_mem _ h)
      · rcases List.mem_cons.1 h with rfl | h
        · exact .inr List.mem_cons_self
        · rcases ih h with rfl | h
          · exact .inl rfl
          · exact .inr (List.mem_cons_of_mem _ h)

theorem ascending_nil : Ascending ([] : List (String × α)) := List.Pairwise.nil

/-- A list still ascends after a pair was inserted. -/
theorem ascending_insert {key : String} {value : α} {entries : List (String × α)}
    (h : Ascending entries) : Ascending (insert key value entries) := by
  induction entries with
  | nil => simp [insert, Ascending]
  | cons e rest ih =>
    obtain ⟨k, v⟩ := e
    obtain ⟨hk, hrest⟩ := List.pairwise_cons.1 h
    rw [insert]
    split
    · rename_i hlt
      refine List.pairwise_cons.2 ⟨?_, h⟩
      intro x hx
      rcases List.mem_cons.1 hx with rfl | hx
      · exact hlt
      · exact String.lt_trans hlt (hk x hx)
    · split
      · rename_i heq
        subst heq
        exact List.pairwise_cons.2 ⟨hk, hrest⟩
      · rename_i hnlt hne
        refine List.pairwise_cons.2 ⟨?_, ih hrest⟩
        intro x hx
        rcases mem_insert hx with rfl | hx
        · exact Std.lt_of_le_of_ne (String.not_lt.1 hnlt) (Ne.symm hne)
        · exact hk x hx

/-- A part of an ascending list ascends. -/
theorem ascending_filter {entries : List (String × α)} (keep : String × α → Bool)
    (h : Ascending entries) : Ascending (entries.filter keep) :=
  List.Pairwise.filter keep h

/-- The keys of a part of an ascending list are less than those of the parts behind it. -/
theorem Ascending.lt_of_append {first second : List (String × α)}
    (h : Ascending (first ++ second)) {a b : String × α} (ha : a ∈ first) (hb : b ∈ second) :
    a.1 < b.1 :=
  (List.pairwise_append.1 h).2.2 a ha b hb

/-- Nothing is found under a key that is less than all keys of the list. -/
theorem find?_eq_none_of_forall_lt {key : String} {entries : List (String × α)}
    (h : ∀ x ∈ entries, key < x.1) : find? key entries = none := by
  induction entries with
  | nil => rfl
  | cons e rest ih =>
    have hne : e.1 ≠ key := fun heq => String.lt_irrefl key (heq ▸ h e List.mem_cons_self)
    rw [find?, if_neg hne]
    exact ih fun x hx => h x (List.mem_cons_of_mem _ hx)

/-- What was inserted is found under its key. -/
@[simp] theorem find?_insert_self (key : String) (value : α) (entries : List (String × α)) :
    find? key (insert key value entries) = some value := by
  induction entries with
  | nil => simp [insert, find?]
  | cons e rest ih =>
    rw [insert]
    split
    · simp [find?]
    · split
      · simp [find?]
      · rename_i hne
        rw [find?, if_neg (Ne.symm hne), ih]

/-- An insertion changes nothing under other keys. -/
theorem find?_insert_of_ne {key key' : String} (h : key' ≠ key) (value : α)
    (entries : List (String × α)) :
    find? key' (insert key value entries) = find? key' entries := by
  induction entries with
  | nil => simp [insert, find?, Ne.symm h]
  | cons e rest ih =>
    rw [insert]
    split
    · simp [find?, Ne.symm h]
    · split
      · rename_i heq
        simp [find?, Ne.symm h, ← heq]
      · simp only [find?]
        rw [ih]

/-- What is found is in the list. -/
theorem mem_of_find?_eq_some {key : String} {value : α} {entries : List (String × α)}
    (h : find? key entries = some value) : (key, value) ∈ entries := by
  induction entries with
  | nil => simp [find?] at h
  | cons e rest ih =>
    obtain ⟨k, v⟩ := e
    rw [find?] at h
    split at h
    · rename_i heq
      simp_all
    · exact List.mem_cons_of_mem _ (ih h)

/-- What is in an ascending list is found, since no key occurs twice. -/
theorem find?_eq_some_of_mem {key : String} {value : α} {entries : List (String × α)}
    (hs : Ascending entries) (h : (key, value) ∈ entries) : find? key entries = some value := by
  induction entries with
  | nil => simp at h
  | cons e rest ih =>
    obtain ⟨k, v⟩ := e
    obtain ⟨hk, hrest⟩ := List.pairwise_cons.1 hs
    rcases List.mem_cons.1 h with heq | h
    · cases heq
      simp [find?]
    · have hne : k ≠ key := fun heq => String.lt_irrefl key (heq ▸ hk _ h)
      rw [find?, if_neg hne]
      exact ih hrest h

/-- Ascending lists with the same lookups are the same list. -/
theorem eq_of_find?_eq {l₁ l₂ : List (String × α)} (h₁ : Ascending l₁) (h₂ : Ascending l₂)
    (h : ∀ key, find? key l₁ = find? key l₂) : l₁ = l₂ := by
  induction l₁ generalizing l₂ with
  | nil =>
    cases l₂ with
    | nil => rfl
    | cons e rest => simpa [find?] using h e.1
  | cons e rest ih =>
    cases l₂ with
    | nil => simpa [find?] using h e.1
    | cons e' rest' =>
      obtain ⟨k, v⟩ := e
      obtain ⟨k', v'⟩ := e'
      obtain ⟨hk, hrest⟩ := List.pairwise_cons.1 h₁
      obtain ⟨hk', hrest'⟩ := List.pairwise_cons.1 h₂
      have hkk : k = k' := by
        rcases Std.lt_trichotomy k k' with hlt | heq | hgt
        · have := h k
          rw [find?, if_pos rfl, find?,
            if_neg (fun heq : k' = k => String.lt_irrefl k (heq ▸ hlt)),
            find?_eq_none_of_forall_lt fun x hx => String.lt_trans hlt (hk' x hx)] at this
          cases this
        · exact heq
        · have := h k'
          rw [find?, if_neg (fun heq : k = k' => String.lt_irrefl k' (heq ▸ hgt)), find?,
            if_pos rfl, find?_eq_none_of_forall_lt fun x hx => String.lt_trans hgt (hk x hx)] at this
          cases this
      subst hkk
      have hv : v = v' := by simpa [find?] using h k
      subst hv
      rw [ih hrest hrest' ?_]
      intro key
      by_cases hkey : k = key
      · subst hkey
        rw [find?_eq_none_of_forall_lt hk, find?_eq_none_of_forall_lt hk']
      · simpa [find?, hkey] using h key

end Assoc

/-! ### Dictionaries -/

/-- A map from texts to values, listed in ascending order of its keys. -/
structure Dict (α : Type) where
  /-- The stored pairs. -/
  entries : List (String × α)
  /-- The keys ascend strictly. -/
  ascending : Assoc.Ascending entries

namespace Dict

/-- The dictionary that holds nothing. -/
def empty : Dict α := ⟨[], Assoc.ascending_nil⟩

instance : Inhabited (Dict α) := ⟨empty⟩

/-- Whether nothing is stored. -/
def isEmpty (d : Dict α) : Bool := d.entries.isEmpty

/-- The number of stored pairs. -/
def size (d : Dict α) : Nat := d.entries.length

/-- The keys, in ascending order. -/
def keys (d : Dict α) : List String := d.entries.map Prod.fst

/-- The values, in ascending order of their keys. -/
def values (d : Dict α) : List α := d.entries.map Prod.snd

/-- The value stored under a key. -/
def find? (d : Dict α) (key : String) : Option α := Assoc.find? key d.entries

/-- Whether something is stored under a key. -/
def contains (d : Dict α) (key : String) : Bool := (d.find? key).isSome

/-- Stores a value under a key, in place of the one stored there. -/
def insert (d : Dict α) (key : String) (value : α) : Dict α :=
  ⟨Assoc.insert key value d.entries, Assoc.ascending_insert d.ascending⟩

/-- Keeps the pairs that pass a test. -/
def filter (d : Dict α) (keep : String → α → Bool) : Dict α :=
  ⟨d.entries.filter fun e => keep e.1 e.2, Assoc.ascending_filter _ d.ascending⟩

/-- The dictionary of a list of pairs; of two pairs with one key the later one counts. -/
def ofList (pairs : List (String × α)) : Dict α :=
  pairs.foldl (fun d e => d.insert e.1 e.2) empty

/-- Stores every pair of `update`, each joined with the value `d` holds under its key, if any. -/
def mergeWith (join : α → α → α) (d update : Dict α) : Dict α :=
  update.entries.foldl
    (fun d e => d.insert e.1 ((d.find? e.1).elim e.2 (join · e.2))) d

@[ext] theorem ext_entries {d₁ d₂ : Dict α} (h : d₁.entries = d₂.entries) : d₁ = d₂ := by
  cases d₁
  cases d₂
  cases h
  rfl

/-- Dictionaries with the same lookups are equal. -/
theorem eq_of_find?_eq {d₁ d₂ : Dict α} (h : ∀ key, d₁.find? key = d₂.find? key) : d₁ = d₂ :=
  ext_entries (Assoc.eq_of_find?_eq d₁.ascending d₂.ascending h)

@[simp] theorem find?_empty (key : String) : (empty : Dict α).find? key = none := rfl

/-- What was stored is found under its key. -/
@[simp] theorem find?_insert_self (d : Dict α) (key : String) (value : α) :
    (d.insert key value).find? key = some value :=
  Assoc.find?_insert_self key value d.entries

/-- Storing under one key changes nothing under the others. -/
theorem find?_insert_of_ne (d : Dict α) {key key' : String} (h : key' ≠ key) (value : α) :
    (d.insert key value).find? key' = d.find? key' :=
  Assoc.find?_insert_of_ne h value d.entries

/-- A value is found under a key exactly if the two are a stored pair. -/
theorem find?_eq_some_iff {d : Dict α} {key : String} {value : α} :
    d.find? key = some value ↔ (key, value) ∈ d.entries :=
  ⟨Assoc.mem_of_find?_eq_some, Assoc.find?_eq_some_of_mem d.ascending⟩

/-- A filtered dictionary holds what was stored and passes the test. -/
theorem find?_filter_eq_some_iff {d : Dict α} {keep : String → α → Bool} {key : String}
    {value : α} :
    (d.filter keep).find? key = some value ↔ d.find? key = some value ∧ keep key value = true := by
  simp only [find?_eq_some_iff]
  simp [filter]

/-- A lookup after filtering is a lookup whose result is tested. -/
theorem find?_filter (d : Dict α) (keep : String → α → Bool) (key : String) :
    (d.filter keep).find? key = (d.find? key).filter (keep key) := by
  apply Option.ext
  intro value
  rw [find?_filter_eq_some_iff]
  simp [Option.filter_eq_some_iff]

end Dict

end SilentAuth
