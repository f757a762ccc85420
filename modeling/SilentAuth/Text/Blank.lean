/-!
# Blank characters, and texts cut at them

A character is blank when it has the White_Space property of Unicode. Here are the class, the text
without its blank ends, and the words of a text. Main statements: words hold no blank character and
are never empty.
-/

namespace SilentAuth

/-- The characters with the White_Space property. -/
def isBlank (c : Char) : Bool :=
  let n := c.toNat
  (9 ≤ n && n ≤ 13) || n == 0x20 || n == 0x85 || n == 0xA0 || n == 0x1680 ||
    (0x2000 ≤ n && n ≤ 0x200A) || n == 0x2028 || n == 0x2029 || n == 0x202F || n == 0x205F ||
    n == 0x3000

/-- A text without the blank characters at its two ends. -/
def trimBlank (s : String) : String :=
  String.ofList ((s.toList.dropWhile isBlank).reverse.dropWhile isBlank).reverse

/-- A text that holds blank characters only, the empty text included. -/
def allBlank (s : String) : Bool := s.toList.all isBlank

/-- The non-empty runs of characters that fail `cut`, in order; `run` is the run being read. -/
def runsBetween (cut : Char → Bool) (run : List Char) : List Char → List (List Char)
  | [] => if run.isEmpty then [] else [run]
  | c :: rest =>
    if cut c then
      if run.isEmpty then runsBetween cut [] rest else run :: runsBetween cut [] rest
    else runsBetween cut (run ++ [c]) rest

/-- The words of a text: its non-empty runs of characters that are not blank. -/
def words (s : String) : List String :=
  (runsBetween isBlank [] s.toList).map String.ofList

/-- A run between cuts is not empty. -/
theorem ne_nil_of_mem_runsBetween {cut : Char → Bool} {cs run w : List Char}
    (h : w ∈ runsBetween cut run cs) : w ≠ [] := by
  induction cs generalizing run with
  | nil => by_cases hr : run.isEmpty <;> simp_all [runsBetween]
  | cons c rest ih =>
    by_cases hc : cut c <;> by_cases hr : run.isEmpty <;> simp only [runsBetween, hc, hr] at h
    · exact ih h
    · rcases List.mem_cons.1 h with rfl | h
      · simpa using hr
      · exact ih h
    · exact ih h
    · exact ih h

/-- A run between cuts has none of the characters at which it is cut. -/
theorem not_cut_of_mem_runsBetween {cut : Char → Bool} {cs run w : List Char}
    (hrun : ∀ c ∈ run, cut c = false) (h : w ∈ runsBetween cut run cs) :
    ∀ c ∈ w, cut c = false := by
  induction cs generalizing run with
  | nil => by_cases hr : run.isEmpty <;> simp_all [runsBetween]
  | cons c rest ih =>
    by_cases hc : cut c <;> by_cases hr : run.isEmpty <;> simp only [runsBetween, hc, hr] at h
    · exact ih (by simp) h
    · rcases List.mem_cons.1 h with rfl | h
      · exact hrun
      · exact ih (by simp) h
    · exact ih (by simp_all) h
    · refine ih ?_ h
      intro d hd
      rcases List.mem_append.1 hd with hd | hd
      · exact hrun d hd
      · simp_all

/-- A word is not empty. -/
theorem ne_empty_of_mem_words {s w : String} (h : w ∈ words s) : w ≠ "" := by
  obtain ⟨cs, hcs, rfl⟩ := List.mem_map.1 h
  have := ne_nil_of_mem_runsBetween hcs
  intro h'
  exact this (by simpa using congrArg String.toList h')

/-- A word has no blank character. -/
theorem isBlank_eq_false_of_mem_words {s w : String} (h : w ∈ words s) :
    ∀ c ∈ w.toList, isBlank c = false := by
  obtain ⟨cs, hcs, rfl⟩ := List.mem_map.1 h
  simpa using not_cut_of_mem_runsBetween (by simp) hcs

end SilentAuth
