/-!
# Offsets in bytes

The UTF-8 form of a text gives every character an offset in bytes. A text can be cut at an offset
only between two characters. Main statements: the offsets of characters, and where a text can be cut.
-/

namespace SilentAuth

/-- The number of bytes that some characters take. -/
def byteCount : List Char → Nat
  | [] => 0
  | c :: rest => c.utf8Size + byteCount rest

/-- Some characters, each with the number of bytes before it; `start` bytes come before all of them. -/
def withOffsets (start : Nat) : List Char → List (Nat × Char)
  | [] => []
  | c :: rest => (start, c) :: withOffsets (start + c.utf8Size) rest

/-- The characters in front of an offset in bytes; nothing where the offset is inside a character or
past the end. -/
def frontAt? (cs : List Char) (offset : Nat) : Option (List Char) :=
  if offset = 0 then some []
  else
    match cs with
    | [] => none
    | c :: rest =>
      if c.utf8Size ≤ offset then (frontAt? rest (offset - c.utf8Size)).map (c :: ·) else none

/-- The bytes of two lists in a row are those of both. -/
@[simp] theorem byteCount_append (first second : List Char) :
    byteCount (first ++ second) = byteCount first + byteCount second := by
  induction first with
  | nil => simp [byteCount]
  | cons c rest ih => simp [byteCount, ih, Nat.add_assoc]

/-- The bytes of a list of characters are those of the text. -/
theorem byteCount_ofList (cs : List Char) : (String.ofList cs).utf8ByteSize = byteCount cs := by
  induction cs with
  | nil => simp [byteCount]
  | cons c rest ih =>
    have happend : String.ofList (c :: rest) = String.singleton c ++ String.ofList rest := by
      rw [String.singleton_eq_ofList, ← String.ofList_append, List.singleton_append]
    rw [happend, String.utf8ByteSize_append, ih, String.utf8ByteSize_singleton, byteCount]

/-- The bytes of a text are those of its characters. -/
theorem byteCount_toList (s : String) : byteCount s.toList = s.utf8ByteSize := by
  rw [← byteCount_ofList, String.ofList_toList]

/-- A character takes at least one byte. -/
theorem length_le_byteCount (cs : List Char) : cs.length ≤ byteCount cs := by
  induction cs with
  | nil => simp
  | cons c rest ih =>
    have hpos := c.utf8Size_pos
    simp only [List.length_cons, byteCount]
    omega

/-- Fewer characters take fewer bytes. -/
theorem byteCount_take_lt_iff {cs : List Char} {count : Nat} :
    byteCount (cs.take count) < byteCount cs ↔ count < cs.length := by
  have hparts : byteCount cs = byteCount (cs.take count) + byteCount (cs.drop count) := by
    rw [← byteCount_append, List.take_append_drop]
  have hdrop := length_le_byteCount (cs.drop count)
  rw [List.length_drop] at hdrop
  constructor
  · intro hlt
    apply Nat.lt_of_not_le
    intro hle
    rw [List.take_of_length_le hle] at hlt
    exact Nat.lt_irrefl _ hlt
  · omega

/-- In front of the character at an index there are the characters with lesser indices. -/
theorem getElem?_withOffsets (start index : Nat) (cs : List Char) :
    (withOffsets start cs)[index]? =
      cs[index]?.map fun c => (start + byteCount (cs.take index), c) := by
  induction cs generalizing start index with
  | nil => simp [withOffsets]
  | cons c rest ih =>
    cases index with
    | zero => simp [withOffsets, byteCount]
    | succ index => simp [withOffsets, byteCount, ih, Nat.add_assoc]

/-- A text can be cut behind any of its characters. -/
theorem frontAt?_append (front rest : List Char) :
    frontAt? (front ++ rest) (byteCount front) = some front := by
  induction front with
  | nil =>
    unfold frontAt?
    simp [byteCount]
  | cons c front ih =>
    have hpos := c.utf8Size_pos
    have hne : c.utf8Size + byteCount front ≠ 0 := by omega
    rw [byteCount, List.cons_append, frontAt?, if_neg hne]
    simp [ih]

/-- Where a text can be cut, one of its characters ends, or the first one begins. -/
theorem of_frontAt?_eq_some {cs front : List Char} {offset : Nat}
    (h : frontAt? cs offset = some front) : front <+: cs ∧ byteCount front = offset := by
  fun_induction frontAt? cs offset generalizing front with
  | case1 =>
    cases h
    simp [byteCount]
  | case2 => cases h
  | case3 offset _ c rest hfits ih =>
    obtain ⟨front, hrest, rfl⟩ := Option.map_eq_some_iff.1 h
    obtain ⟨hfront, hsize⟩ := ih hrest
    refine ⟨List.cons_prefix_cons.2 ⟨rfl, hfront⟩, ?_⟩
    rw [byteCount, hsize, Nat.add_sub_cancel' hfits]
  | case4 => cases h

/-- A text can be cut at an offset exactly if some characters in front take that many bytes. -/
theorem frontAt?_eq_some_iff {cs front : List Char} {offset : Nat} :
    frontAt? cs offset = some front ↔ front <+: cs ∧ byteCount front = offset := by
  constructor
  · exact of_frontAt?_eq_some
  · rintro ⟨⟨rest, rfl⟩, rfl⟩
    exact frontAt?_append front rest

/-- A text can be cut behind the character at an index. -/
theorem frontAt?_of_withOffsets {cs : List Char} {index offset : Nat} {c : Char}
    (h : (withOffsets 0 cs)[index]? = some (offset, c)) :
    offset + c.utf8Size = byteCount (cs.take (index + 1)) ∧
      frontAt? cs (offset + c.utf8Size) = some (cs.take (index + 1)) := by
  rw [getElem?_withOffsets, Option.map_eq_some_iff] at h
  obtain ⟨d, hd, heq⟩ := h
  obtain ⟨rfl, rfl⟩ := Prod.mk.inj heq
  have htake : cs.take (index + 1) = cs.take index ++ [d] := by
    rw [List.take_add_one, hd, Option.toList_some]
  have hoffset : 0 + byteCount (cs.take index) + d.utf8Size = byteCount (cs.take (index + 1)) := by
    simp [htake, byteCount]
  refine ⟨hoffset, ?_⟩
  rw [hoffset, frontAt?_eq_some_iff]
  exact ⟨List.take_prefix _ _, rfl⟩

end SilentAuth
