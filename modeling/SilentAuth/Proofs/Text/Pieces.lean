import SilentAuth.Text.Split

/-!
# The pieces of a list

Cutting a list into pieces and joining pieces undo each other.

* `splitAll_append_cons`: the first piece ends where the first cut is.
* `intercalate_splitAll`: the pieces, joined, are the list.
* `splitAll_intercalate`: pieces in which nothing is cut are cut from each other.
-/

namespace SilentAuth

variable {α : Type} {cut : α → Bool}

/-- A list is cut where the library cuts it. -/
theorem splitAll_eq_splitOnP (cut : α → Bool) (xs : List α) :
    splitAll cut xs = xs.splitOnP cut := by
  induction xs with
  | nil => rfl
  | cons x rest ih =>
    rw [splitAll, List.splitOnP_cons_eq_if_modifyHead, ← ih]
    split
    · rfl
    · cases hpieces : splitAll cut rest with
      | nil => exact absurd hpieces (splitAll_ne_nil cut rest)
      | cons piece pieces => rfl

/-- A list without a cut is one piece. -/
theorem splitAll_of_uncut {xs : List α} (h : ∀ x ∈ xs, cut x = false) : splitAll cut xs = [xs] := by
  rw [splitAll_eq_splitOnP, List.splitOnP_eq_singleton h]

/-- The first piece ends where the first cut is. -/
theorem splitAll_append_cons {xs : List α} (h : ∀ x ∈ xs, cut x = false) {mark : α}
    (hmark : cut mark = true) (rest : List α) :
    splitAll cut (xs ++ mark :: rest) = xs :: splitAll cut rest := by
  rw [splitAll_eq_splitOnP, splitAll_eq_splitOnP,
    List.splitOnP_append_cons_of_forall_mem h _ hmark]

/-- Cutting comes before or after the elements are changed. -/
theorem splitAll_map {β : Type} (cut : β → Bool) (f : α → β) (xs : List α) :
    splitAll cut (xs.map f) = (splitAll (fun x => cut (f x)) xs).map (List.map f) := by
  induction xs with
  | nil => rfl
  | cons x rest ih =>
    rw [List.map_cons, splitAll, splitAll, ih]
    split
    · rfl
    · cases hpieces : splitAll (fun x => cut (f x)) rest with
      | nil => exact absurd hpieces (splitAll_ne_nil _ rest)
      | cons piece pieces => rfl

/-- What a piece holds is in the list, and is not where the list is cut. -/
theorem mem_of_mem_splitAll {xs piece : List α} (h : piece ∈ splitAll cut xs) {x : α}
    (hx : x ∈ piece) : x ∈ xs ∧ cut x = false := by
  induction xs generalizing piece with
  | nil =>
    rw [splitAll, List.mem_singleton] at h
    subst h
    cases hx
  | cons y rest ih =>
    rw [splitAll] at h
    split at h
    · rcases List.mem_cons.1 h with rfl | h
      · cases hx
      · exact ⟨List.mem_cons_of_mem _ (ih h hx).1, (ih h hx).2⟩
    · rename_i hcut
      cases hpieces : splitAll cut rest with
      | nil => exact absurd hpieces (splitAll_ne_nil cut rest)
      | cons first pieces =>
        rw [hpieces] at h ih
        rcases List.mem_cons.1 h with rfl | h
        · rcases List.mem_cons.1 hx with rfl | hx
          · exact ⟨List.mem_cons_self, by simpa using hcut⟩
          · have hrest := ih List.mem_cons_self hx
            exact ⟨List.mem_cons_of_mem _ hrest.1, hrest.2⟩
        · have hrest := ih (List.mem_cons_of_mem _ h) hx
          exact ⟨List.mem_cons_of_mem _ hrest.1, hrest.2⟩

/-- What joined pieces hold is in a piece, or stands between two. -/
theorem mem_intercalate {mark x : α} {pieces : List (List α)}
    (h : x ∈ List.intercalate [mark] pieces) : x = mark ∨ ∃ piece ∈ pieces, x ∈ piece := by
  induction pieces with
  | nil => simp at h
  | cons piece rest ih =>
    cases rest with
    | nil => exact .inr ⟨piece, List.mem_cons_self, by simpa using h⟩
    | cons next rest =>
      rw [List.intercalate_cons_cons, List.append_assoc, List.mem_append, List.mem_append,
        List.mem_singleton] at h
      rcases h with h | h | h
      · exact .inr ⟨piece, List.mem_cons_self, h⟩
      · exact .inl h
      · rcases ih h with hmark | ⟨other, hother, hx⟩
        · exact .inl hmark
        · exact .inr ⟨other, List.mem_cons_of_mem _ hother, hx⟩

variable [DecidableEq α]

/-- Pieces at a mark are what the library splits a list into. -/
theorem splitAll_eq_splitOn (mark : α) (xs : List α) :
    splitAll (· = mark) xs = xs.splitOn mark := by
  rw [splitAll_eq_splitOnP]
  rfl

/-- The pieces, joined, are the list. -/
theorem intercalate_splitAll (mark : α) (xs : List α) :
    List.intercalate [mark] (splitAll (· = mark) xs) = xs := by
  rw [splitAll_eq_splitOn, List.intercalate_splitOn]

/-- Pieces in which nothing is cut are cut from each other. -/
theorem splitAll_intercalate {mark : α} {pieces : List (List α)}
    (h : ∀ piece ∈ pieces, mark ∉ piece) (hne : pieces ≠ []) :
    splitAll (· = mark) (List.intercalate [mark] pieces) = pieces := by
  rw [splitAll_eq_splitOn, List.splitOn_intercalate mark h hne]

end SilentAuth
