import Mathlib.Data.List.Basic
import SilentAuth.Scope

/-!
# Words, and scope sets as texts

A scope set is written as its names with spaces between them, and read as the words of a text. Names
that are words are read as they were written; a name that holds blank characters is read as its
words.

* `words_intercalate`: the words of texts with spaces between them.
* `Scopes.mem_names_ofText_text`: the names in the text of a set.
* `Scopes.ofText_text`: a set whose names are words is read as it was written;
  `Scopes.listed_ofText_text`: so is each of its words.
-/

namespace SilentAuth

/-! ### Words -/

/-- A text that holds no blank characters, and that is not empty. -/
structure IsWord (s : String) : Prop where
  ne_empty : s ≠ ""
  unblank : ∀ c ∈ s.toList, isBlank c = false

/-- The words of a text are words. -/
theorem isWord_of_mem_words {s w : String} (h : w ∈ words s) : IsWord w :=
  ⟨ne_empty_of_mem_words h, isBlank_eq_false_of_mem_words h⟩

/-- Only the empty text is equal to it up to case. -/
theorem eq_empty_of_foldCase {s : String} (h : foldCase s = foldCase "") : s = "" := by
  have hlist := congrArg String.toList h
  rw [toList_foldCase, toList_foldCase, String.toList_empty, List.map_nil,
    List.map_eq_nil_iff] at hlist
  exact String.toList_eq_nil_iff.1 hlist

/-- No character from the letters A to z is blank. -/
theorem isBlank_eq_false_of_letter {c : Char} (hfirst : 65 ≤ c.toNat) (hlast : c.toNat ≤ 122) :
    isBlank c = false := by
  unfold isBlank
  dsimp only
  simp only [Bool.or_eq_false_iff, Bool.and_eq_false_iff, decide_eq_false_iff_not,
    beq_eq_false_iff_ne]
  omega

/-- A letter is blank in neither case, and other characters have no case. -/
theorem isBlank_toLower (c : Char) : isBlank c.toLower = isBlank c := by
  unfold Char.toLower
  split
  · rename_i hupper
    obtain ⟨hfirst, hlast⟩ := hupper
    have hA : ('A'.val).toNat = 65 := rfl
    have hZ : ('Z'.val).toNat = 90 := rfl
    have hshift : ('a'.val - 'A'.val).toNat = 32 := rfl
    rw [ge_iff_le, UInt32.le_iff_toNat_le, hA] at hfirst
    rw [UInt32.le_iff_toNat_le, hZ] at hlast
    rw [isBlank_eq_false_of_letter hfirst (Nat.le_trans hlast (by decide))]
    apply isBlank_eq_false_of_letter
    · show 65 ≤ (c.val + ('a'.val - 'A'.val)).toNat
      rw [UInt32.toNat_add]
      omega
    · show (c.val + ('a'.val - 'A'.val)).toNat ≤ 122
      rw [UInt32.toNat_add]
      omega
  · rfl

/-- A text that differs from a word at most in case is a word. -/
theorem IsWord.of_foldCase {a b : String} (ha : IsWord a) (h : foldCase a = foldCase b) :
    IsWord b := by
  constructor
  · rintro rfl
    exact ha.ne_empty (eq_empty_of_foldCase h)
  · intro c hc
    have hmem : c.toLower ∈ a.toList.map Char.toLower := by
      rw [← toList_foldCase, h, toList_foldCase]
      exact List.mem_map_of_mem hc
    obtain ⟨d, hd, hsame⟩ := List.mem_map.1 hmem
    rw [← isBlank_toLower c, ← hsame, isBlank_toLower]
    exact ha.unblank d hd

/-- A character at which a text is cut separates the runs before it from those behind. -/
theorem runsBetween_append_cons {cut : Char → Bool} {sep : Char} (hsep : cut sep = true)
    (run first second : List Char) :
    runsBetween cut run (first ++ sep :: second) =
      runsBetween cut run first ++ runsBetween cut [] second := by
  induction first generalizing run with
  | nil =>
    cases run with
    | nil => simp [runsBetween, hsep]
    | cons c run => simp [runsBetween, hsep]
  | cons c rest ih =>
    rw [List.cons_append, runsBetween, runsBetween]
    cases hc : cut c with
    | false => simp [ih]
    | true => by_cases hrun : run.isEmpty <;> simp [hrun, ih]

/-- Characters at which a text is not cut go on with the run. -/
theorem runsBetween_of_uncut {cut : Char → Bool} {cs : List Char} (h : ∀ c ∈ cs, cut c = false)
    (run : List Char) :
    runsBetween cut run cs = if (run ++ cs).isEmpty then [] else [run ++ cs] := by
  induction cs generalizing run with
  | nil => simp [runsBetween]
  | cons c rest ih =>
    obtain ⟨hc, hrest⟩ := List.forall_mem_cons.1 h
    rw [runsBetween, hc]
    simp [ih hrest]

/-- A word has one word, itself. -/
theorem words_of_isWord {w : String} (h : IsWord w) : words w = [w] := by
  have hne : w.toList ≠ [] := by
    intro hnil
    apply h.ne_empty
    exact String.toList_inj.1 (by simpa using hnil)
  rw [words, runsBetween_of_uncut h.unblank]
  simp [hne]

/-- The words of texts with spaces between them are the words of the texts. -/
theorem words_intercalate (texts : List String) :
    words (String.intercalate " " texts) = texts.flatMap words := by
  unfold words
  rw [String.toList_intercalate]
  induction texts with
  | nil => rfl
  | cons s rest ih =>
    cases rest with
    | nil => simp [List.intercalate]
    | cons t rest =>
      have hspace : " ".toList = [' '] := rfl
      rw [hspace, List.map_cons, List.map_cons, List.intercalate_cons_cons, List.append_assoc,
        List.singleton_append, runsBetween_append_cons (by decide), List.map_append,
        ← List.map_cons]
      rw [hspace] at ih
      rw [ih]
      rfl

namespace Scopes

/-! ### Names of sets -/

/-- A name is in a scope set exactly if the set holds it as a key. -/
theorem mem_names_iff {s : Scopes} {name : String} :
    name ∈ s.names ↔ s.set.find? name = some () := by
  rw [Dict.find?_eq_some_iff]
  constructor
  · intro h
    obtain ⟨⟨_, _⟩, he, rfl⟩ := List.mem_map.1 h
    exact he
  · intro h
    exact List.mem_map.2 ⟨(name, ()), h, rfl⟩

/-- Sets with the same names are equal. -/
theorem ext_names {s t : Scopes} (h : ∀ name, name ∈ s.names ↔ name ∈ t.names) : s = t := by
  have hset : s.set = t.set := by
    apply Dict.eq_of_find?_eq
    intro name
    apply Option.ext
    intro _
    exact (mem_names_iff.symm.trans (h name)).trans mem_names_iff
  cases s
  cases t
  exact congrArg Scopes.mk hset

/-- An insertion adds the name to those of the set, and no other. -/
theorem mem_names_insert {s : Scopes} {name other : String} :
    name ∈ (s.insert other).names ↔ name = other ∨ name ∈ s.names := by
  rw [mem_names_iff, mem_names_iff, insert]
  by_cases h : name = other
  · subst h
    simp
  · rw [Dict.find?_insert_of_ne _ h]
    simp [h]

/-- A set has all names that were inserted, and those from before. -/
theorem mem_names_insertAll {s : Scopes} {added : List String} {name : String} :
    name ∈ (s.insertAll added).names ↔ name ∈ added ∨ name ∈ s.names := by
  induction added generalizing s with
  | nil => simp [insertAll]
  | cons other rest ih =>
    have hstep : s.insertAll (other :: rest) = (s.insert other).insertAll rest := rfl
    rw [hstep, ih, mem_names_insert, List.mem_cons]
    tauto

/-! ### Sets as texts -/

/-- The names of the set that a text says are its words. -/
theorem mem_names_ofText {text name : String} : name ∈ (ofText text).names ↔ name ∈ words text := by
  rw [ofText, mem_names_insertAll]
  simp [empty, names, Dict.keys, Dict.empty]

/-- The text of a set says the words of its names. -/
theorem mem_names_ofText_text {s : Scopes} {name : String} :
    name ∈ (ofText s.text).names ↔ ∃ written ∈ s.names, name ∈ words written := by
  rw [mem_names_ofText, text, words_intercalate, List.mem_flatMap]

/-- A set whose names are words is read as it was written. -/
theorem ofText_text {s : Scopes} (h : ∀ name ∈ s.names, IsWord name) : ofText s.text = s := by
  apply ext_names
  intro name
  rw [mem_names_ofText_text]
  constructor
  · rintro ⟨written, hwritten, hname⟩
    rw [words_of_isWord (h written hwritten), List.mem_singleton] at hname
    rwa [hname]
  · intro hname
    refine ⟨name, hname, ?_⟩
    rw [words_of_isWord (h name hname)]
    exact List.mem_singleton_self name

/-- A word that a set lists is listed when the set is read as it was written. -/
theorem listed_ofText_text {s : Scopes} {name : String} (hword : IsWord name)
    (h : listed name s.names = true) : listed name (ofText s.text).names = true := by
  obtain ⟨written, hwritten, hsame⟩ := listed_iff.1 h
  have hwords : words written = [written] := words_of_isWord (hword.of_foldCase hsame.symm)
  refine listed_iff.2 ⟨written, mem_names_ofText_text.2 ⟨written, hwritten, ?_⟩, hsame⟩
  rw [hwords]
  exact List.mem_singleton_self written

/-- A set that was read is written and read as it is. -/
theorem ofText_text_ofText (t : String) : ofText (ofText t).text = ofText t :=
  ofText_text fun _ hname => isWord_of_mem_words (mem_names_ofText.1 hname)

end Scopes

end SilentAuth
