/-!
# Cutting lists into pieces

Main statement: there always is a piece.
-/

namespace SilentAuth

/-- The pieces of a list between the elements that pass the test; one more than there are such
elements. -/
def splitAll {α : Type} (cut : α → Bool) : List α → List (List α)
  | [] => [[]]
  | x :: rest =>
    if cut x then [] :: splitAll cut rest
    else
      match splitAll cut rest with
      | [] => [[x]]
      | piece :: pieces => (x :: piece) :: pieces

/-- There is at least one piece. -/
theorem splitAll_ne_nil {α : Type} (cut : α → Bool) (xs : List α) : splitAll cut xs ≠ [] := by
  cases xs with
  | nil => simp [splitAll]
  | cons x rest =>
    rw [splitAll]
    split
    · simp
    · split <;> simp

end SilentAuth
