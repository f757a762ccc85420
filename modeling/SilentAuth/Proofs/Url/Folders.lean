import Mathlib.Data.List.Flatten
import SilentAuth.Proofs.Url.Written

/-!
# Folders behind a host

A name is written behind a host, with a stroke after it. What is read of it is the folder with this
name if nothing in the name is left out, ends the path or cuts it, and the name does not say to stay
or to go up; and it is some other folder in all other cases.

* `Url.IsPathName`: the names of which this is so.
* `Url.folder_eq_singleton_iff`: what is read of a name.
-/

namespace SilentAuth

/-! ### Texts that are encoded -/

namespace Percent

/-- Every character is encoded as something. -/
theorem encodeChar_ne_nil (set : CharSet) (c : Char) : encodeChar set c ≠ [] := by
  unfold encodeChar
  split
  · obtain ⟨b, rest, hbytes, _⟩ := exists_utf8EncodeChar c
    simp [hbytes, encodeByte]
  · simp

/-- A text that is not empty is encoded as one that is not. -/
theorem encode_ne_nil {set : CharSet} {cs : List Char} (h : cs ≠ []) : encode set cs ≠ [] := by
  obtain ⟨c, rest, rfl⟩ := List.exists_cons_of_ne_nil h
  simp [encode, encodeChar_ne_nil]

/-- What is left out of a text is missing from the encoded text. -/
theorem eq_of_encode_eq {set : CharSet} {part cs : List Char} (hpart : part.Sublist cs)
    (h : encode set part = encode set cs) : part = cs := by
  induction hpart with
  | slnil => rfl
  | cons c hrest _ =>
    have hle := (hrest.flatMap (encodeChar set)).length_le
    have hpos := List.length_pos_iff.2 (encodeChar_ne_nil set c)
    have hlength := congrArg List.length h
    rw [encode, encode, List.flatMap_cons, List.length_append] at hlength
    omega
  | cons_cons c _ ih => rw [ih (List.append_cancel_left h)]

/-- A character that needs no encoding is found in the encoded text. -/
theorem mem_encode_of_plain {set : CharSet} {cs : List Char} {c : Char} (hc : c ∈ cs)
    (hplain : set.encodes c = false) : c ∈ encode set cs :=
  List.mem_flatMap.2 ⟨c, hc, by simp [encodeChar, hplain]⟩

end Percent

namespace Url

/-! ### What is read behind a host -/

/-- The folder that is read of a text behind a host, with a stroke after it. -/
def folder (cs : List Char) : List (List Char) :=
  (readPath httpsScheme (hierarchy (kept (cs ++ ['/'])))).segments.dropLast

/-- The characters that a path does not hold within a segment: those that end it, those that cut it,
and those that are left out. -/
def pathMarks : List Char := ['#', '?', '/', '\\', '\t', '\n', '\r']

/-- A text that is read as one segment, which says just this text. -/
structure IsPathName (cs : List Char) : Prop where
  unmarked : ∀ mark ∈ pathMarks, mark ∉ cs
  notStay : dotsDecoded cs ≠ ['.']
  notUp : dotsDecoded cs ≠ ['.', '.']

/-- A name that a path holds as it is is read as its percent-encoding. -/
theorem IsPathName.segment {cs : List Char} (h : IsPathName cs) :
    Segment.of cs = .name (Percent.encode Percent.path cs) := by
  rw [Segment.of, if_neg h.notStay, if_neg h.notUp]

/-- What stands before a mark does not depend on what follows behind it. -/
theorem takeWhile_append_of_mem {mark : Char} {cs : List Char} (h : mark ∈ cs) (rest : List Char) :
    (cs ++ rest).takeWhile (· != mark) = cs.takeWhile (· != mark) := by
  rw [List.takeWhile_append, if_neg]
  intro hlength
  have hall := (List.takeWhile_prefix (· != mark)).eq_of_length hlength
  have hmark := List.takeWhile_eq_self_iff.1 hall mark h
  simp at hmark

/-- What stands behind the end of a hierarchy does not belong to it. -/
theorem hierarchy_append_of_mem {cs : List Char} (h : '#' ∈ cs ∨ '?' ∈ cs) (rest : List Char) :
    hierarchy (cs ++ rest) = hierarchy cs := by
  unfold hierarchy
  by_cases hfragment : '#' ∈ cs
  · rw [takeWhile_append_of_mem hfragment]
  · have hquery : '?' ∈ cs := h.resolve_left hfragment
    have hall : ∀ c ∈ cs, (c != '#') = true := fun c hc => bne_of_notMem hfragment hc
    rw [List.takeWhile_append_of_pos hall, takeWhile_append_of_mem hquery,
      List.takeWhile_eq_self_iff.2 hall]

/-- The part of a text that is read as a path is made of its characters. -/
theorem mem_of_mem_hierarchy {cs : List Char} {c : Char} (h : c ∈ hierarchy cs) : c ∈ cs :=
  List.takeWhile_subset _ (List.takeWhile_subset _ h)

/-- Without a stroke there is one segment, so there is no folder. -/
theorem dropLast_readPath_of_uncut {cs : List Char} (h : ∀ c ∈ cs, isStroke c = false) :
    (readPath httpsScheme cs).segments.dropLast = [] := by
  rw [readPath_https, splitAll_of_uncut h, resolve, resolve]
  cases Segment.of cs <;> rfl

/-- With a stroke at the end, it is the folder that the rest names. -/
theorem dropLast_readPath_stroke {cs : List Char} (h : ∀ c ∈ cs, isStroke c = false) :
    (readPath httpsScheme (cs ++ ['/'])).segments.dropLast =
      match Segment.of cs with
      | .name s => [s]
      | _ => [] := by
  rw [readPath_https, splitAll_append_cons h (by decide)]
  have hempty : Segment.of [] = .name [] := by decide
  cases hname : Segment.of cs <;> simp [splitAll, resolve, hname, hempty, Resolved.add, goUp]

/-- A folder, as far as its name has no strokes and does not end the path. -/
theorem folder_of_uncut {cs : List Char} (huncut : ∀ c ∈ kept cs, isStroke c = false)
    (hopen : ¬ ('#' ∈ kept cs ∨ '?' ∈ kept cs)) :
    folder cs =
      match Segment.of (kept cs) with
      | .name s => [s]
      | _ => [] := by
  obtain ⟨hfragment, hquery⟩ := not_or.1 hopen
  have hstroke : hierarchy ['/'] = ['/'] := by decide
  rw [folder, kept_append, show kept ['/'] = ['/'] from rfl, hierarchy_append hfragment hquery,
    hstroke, dropLast_readPath_stroke huncut]

/-- **What is read of a name.** Behind a host, a name without a stroke is read as the one folder that it
names, percent-encoded, exactly if no character of it ends or cuts the path or is left out, and it is
not one or two dots, encoded or not. -/
theorem folder_eq_singleton_iff {cs : List Char} (hslash : '/' ∉ cs) :
    folder cs = [Percent.encode Percent.path cs] ↔ IsPathName cs := by
  constructor
  · intro h
    -- a path is cut at backslashes, which are not encoded, so there are none in its segments
    have hbackslash : '\\' ∉ cs := by
      intro hmem
      have hsegment : IsSegment (Percent.encode Percent.path cs) := by
        apply isSegment_of_mem_readPath
        apply List.dropLast_subset
        rw [← folder, h]
        exact List.mem_singleton_self _
      exact absurd (hsegment.uncut _ (Percent.mem_encode_of_plain hmem (by decide))) (by decide)
    have huncut : ∀ c ∈ kept cs, isStroke c = false := fun c hc =>
      uncut_iff.2 ⟨hslash, hbackslash⟩ c (List.mem_of_mem_filter hc)
    have hopen : ¬ ('#' ∈ kept cs ∨ '?' ∈ kept cs) := by
      intro hmem
      rw [folder, kept_append, hierarchy_append_of_mem hmem,
        dropLast_readPath_of_uncut fun c hc => huncut c (mem_of_mem_hierarchy hc)] at h
      cases h
    rw [folder_of_uncut huncut hopen, Segment.of] at h
    split_ifs at h with hstay hup
    have hkept : kept cs = cs :=
      Percent.eq_of_encode_eq List.filter_sublist (List.cons.inj h).1
    have hmarks := kept_eq_self_iff.1 hkept
    rw [hkept] at hopen hstay hup
    obtain ⟨hfragment, hquery⟩ := not_or.1 hopen
    exact ⟨by simpa [pathMarks, hslash, hbackslash, hfragment, hquery] using hmarks, hstay, hup⟩
  · intro h
    have hmarks := h.unmarked
    simp only [pathMarks, List.forall_mem_cons] at hmarks
    obtain ⟨hfragment, hquery, -, hbackslash, hleft⟩ := hmarks
    have hkept : kept cs = cs := kept_eq_self_iff.2 (by simpa using hleft)
    rw [folder_of_uncut, hkept, h.segment]
    · rw [hkept]
      exact uncut_iff.2 ⟨hslash, hbackslash⟩
    · rw [hkept, not_or]
      exact ⟨hfragment, hquery⟩

end Url

end SilentAuth
