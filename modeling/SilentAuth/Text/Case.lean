/-!
# Comparing names without regard to ASCII case

Hosts, tenants, client ids, account ids and scopes are compared after folding the letters A to Z;
every other character, accented letters included, stands for itself. Main statements: folding is
idempotent, and `sameText` is equality of folded texts, hence an equivalence.
-/

namespace SilentAuth

/-- A text with its letters A to Z replaced by a to z. -/
def foldCase (s : String) : String := String.ofList (s.toList.map Char.toLower)

/-- Two texts that differ at most in the case of the letters A to Z. -/
def sameText (a b : String) : Bool := foldCase a == foldCase b

/-- A name that one of the listed names equals up to ASCII case. -/
def listed (name : String) (names : List String) : Bool := names.any (sameText · name)

theorem toLower_toLower (c : Char) : c.toLower.toLower = c.toLower := by
  unfold Char.toLower
  split
  · rename_i h
    rw [dif_neg]
    intro h'
    have h1 := h.1
    have h2 := h.2
    have h3 := h'.2
    simp only [ge_iff_le, UInt32.le_iff_toNat_le, UInt32.toNat_add] at h1 h2 h3
    have a : ('A'.val).toNat = 65 := rfl
    have z : ('Z'.val).toNat = 90 := rfl
    have d : ('a'.val - 'A'.val).toNat = 32 := rfl
    omega
  · rename_i h
    rfl

/-- A text is folded character by character. -/
@[simp] theorem toList_foldCase (s : String) :
    (foldCase s).toList = s.toList.map Char.toLower := by
  simp [foldCase]

@[simp] theorem foldCase_foldCase (s : String) : foldCase (foldCase s) = foldCase s := by
  apply String.ext
  rw [toList_foldCase, toList_foldCase, List.map_map]
  exact List.map_congr_left fun c _ => toLower_toLower c

/-- Texts are the same up to case exactly if they are folded alike. -/
@[simp] theorem sameText_iff {a b : String} : sameText a b = true ↔ foldCase a = foldCase b := by
  simp [sameText]

/-- Texts differ exactly if they are folded differently. -/
theorem sameText_eq_false_iff {a b : String} :
    sameText a b = false ↔ foldCase a ≠ foldCase b := by
  rw [← Bool.not_eq_true, sameText_iff]

theorem sameText_refl (a : String) : sameText a a = true := by simp

theorem sameText_comm (a b : String) : sameText a b = sameText b a := by
  simp only [sameText, Bool.beq_comm]

/-- A name is listed exactly if one of the names is folded alike. -/
theorem listed_iff {name : String} {names : List String} :
    listed name names = true ↔ ∃ other ∈ names, foldCase other = foldCase name := by
  simp [listed]

/-- Whether a name is listed does not depend on the case in which it is written. -/
theorem listed_congr {a b : String} {names : List String} (h : sameText a b = true) :
    listed a names = listed b names := by
  unfold listed sameText
  rw [sameText_iff.1 h]

end SilentAuth
