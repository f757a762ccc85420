import SilentAuth.Dict

/-!
# Dictionaries that are filtered

The values of a dictionary are listed in the order of their keys. A test that looks at values alone
filters the dictionary as it filters that list.

* `Dict.mem_values_iff`: a value is one that stands under some key.
* `Dict.values_filter`, `Dict.size_filter`: what is left, and how much of it.
* `Dict.filter_values_eq_singleton`: a dictionary in which one value passes a test.
-/

namespace SilentAuth

namespace Dict

variable {α : Type} {d : Dict α} {v : α}

/-- A value is in a dictionary exactly if it stands under some key. -/
theorem mem_values_iff : v ∈ d.values ↔ ∃ key, d.find? key = some v := by
  simp only [values, find?_eq_some_iff, List.mem_map, Prod.exists, exists_eq_right]

/-! ### What is left -/

/-- What passes a test was there before. -/
theorem mem_values_of_filter {keep : String → α → Bool} (h : v ∈ (d.filter keep).values) :
    v ∈ d.values := by
  obtain ⟨key, hkey⟩ := mem_values_iff.1 h
  exact mem_values_iff.2 ⟨key, (find?_filter_eq_some_iff.1 hkey).1⟩

/-- The values that pass a test are left, in the same order. -/
@[simp] theorem values_filter (d : Dict α) (test : α → Bool) :
    (d.filter fun _ v => test v).values = d.values.filter test := by
  simp only [values, filter, List.filter_map]
  rfl

/-- A dictionary stays if all its values pass the test. -/
theorem filter_eq_self {test : α → Bool} (h : ∀ v ∈ d.values, test v = true) :
    (d.filter fun _ v => test v) = d :=
  ext_entries (List.filter_eq_self.2 fun _ he => h _ (List.mem_map_of_mem he))

/-- What is left and what is dropped make up the dictionary. -/
theorem size_filter (d : Dict α) (test : α → Bool) :
    (d.filter fun _ v => !test v).size + d.values.countP test = d.size := by
  have hsize (d : Dict α) : d.size = d.values.length := by simp [size, values]
  have hparts := List.length_eq_countP_add_countP test (l := d.values)
  rw [hsize, hsize, values_filter, hparts, Nat.add_comm]
  simp [List.countP_eq_length_filter]

/-! ### One value that passes -/

/-- A dictionary has at most one value that passes a test, if all values that pass it stand under one
key. -/
theorem length_filter_values_le_one {test : α → Bool}
    (h : ∀ key key' a a', d.find? key = some a → d.find? key' = some a' → test a = true →
      test a' = true → key = key') : (d.values.filter test).length ≤ 1 := by
  have hpassing : ∀ e ∈ d.entries.filter (fun e => test e.2),
      d.find? e.1 = some e.2 ∧ test e.2 = true := by
    intro e he
    obtain ⟨hstored, htest⟩ := List.mem_filter.1 he
    exact ⟨find?_eq_some_iff.2 hstored, htest⟩
  have hvalues : d.values.filter test =
      (d.entries.filter fun e => test e.2).map Prod.snd := List.filter_map
  have hascending : Assoc.Ascending (d.entries.filter fun e => test e.2) :=
    Assoc.ascending_filter _ d.ascending
  rw [hvalues, List.length_map]
  generalize d.entries.filter (fun e => test e.2) = passing at hpassing hascending ⊢
  match passing with
  | [] => exact Nat.zero_le 1
  | [e] => exact Nat.le_refl 1
  | e :: e' :: rest =>
    obtain ⟨hstored, htest⟩ := hpassing e (by simp)
    obtain ⟨hstored', htest'⟩ := hpassing e' (by simp)
    have hlt : e.1 < e'.1 := (List.pairwise_cons.1 hascending).1 e' (by simp)
    have hkey : e.1 = e'.1 := h e.1 e'.1 e.2 e'.2 hstored hstored' htest htest'
    exact absurd (hkey ▸ hlt) (String.lt_irrefl e'.1)

/-- A dictionary has one value that passes a test, if all values that pass it stand under its key. -/
theorem filter_values_eq_singleton {test : α → Bool} {key : String}
    {a : α} (hstored : d.find? key = some a) (htest : test a = true)
    (hothers : ∀ other b, d.find? other = some b → test b = true → other = key) :
    d.values.filter test = [a] := by
  have hmem : a ∈ d.values.filter test :=
    List.mem_filter.2 ⟨mem_values_iff.2 ⟨key, hstored⟩, htest⟩
  have hlength : (d.values.filter test).length ≤ 1 := by
    apply length_filter_values_le_one
    intro other other' b b' hb hb' hpass hpass'
    exact (hothers other b hb hpass).trans (hothers other' b' hb' hpass').symm
  obtain ⟨b, hb⟩ := List.length_eq_one_iff.1 (Nat.le_antisymm hlength (List.length_pos_of_mem hmem))
  rw [hb, List.mem_singleton] at hmem
  rw [hb, hmem]

end Dict

end SilentAuth
