import SilentAuth.Secret

/-!
# What is shown of a secret

A secret is cut at an offset in bytes, but its width is a number of characters. The two are brought
together by one fact: there are bytes behind a character exactly if there are characters behind it.

* `revealed?_of_two_le`: what is left of a secret that is cut to two characters or more.
* `reveals_width`: what is shown of a secret at each width.
-/

namespace SilentAuth

/-- With room for a character and the ellipsis, a secret that is shorter than the width is shown as it
is, and any other one is cut to the width. -/
theorem revealed?_of_two_le (secret : String) {width : Nat} (h : 2 ≤ width) :
    revealed? secret width =
      some (if secret.length < width then secret
        else String.ofList (secret.toList.take (width - 1)) ++ ellipsis) := by
  obtain ⟨last, rfl⟩ := Nat.exists_eq_add_of_le' h
  have hbytes : secret.length ≤ secret.utf8ByteSize := by
    rw [← String.length_toList, ← byteCount_toList]
    exact length_le_byteCount secret.toList
  rw [revealed?]
  split
  · rename_i hshort
    rw [if_pos (by omega)]
  · cases hc : (withOffsets 0 secret.toList)[last]? with
    | none =>
      have hlength : secret.length ≤ last := by
        rw [getElem?_withOffsets, Option.map_eq_none_iff, List.getElem?_eq_none_iff] at hc
        rwa [← String.length_toList]
      simp only
      rw [if_pos (by omega)]
    | some place =>
      obtain ⟨offset, c⟩ := place
      obtain ⟨hoffset, hfront⟩ := frontAt?_of_withOffsets hc
      -- something is left behind the character at this index
      have hleft : offset + c.utf8Size < secret.utf8ByteSize ↔ last + 1 < secret.length := by
        rw [hoffset, ← byteCount_toList, byteCount_take_lt_iff, String.length_toList]
      simp only [hleft, hfront, Option.map_some]
      split
      · rw [if_neg (by omega)]
        rfl
      · rw [if_pos (by omega)]

/-- **What is shown of a secret.** At every width there is a text that is shown, between quotes or not,
and so no character is cut through. Where the width has room for a character and the ellipsis, this is the
secret itself if it has fewer characters than the width, and else its first characters and the ellipsis;
in a narrower space it is the ellipsis alone. So it never has more characters than the width, but for an
ellipsis where the width is zero. -/
theorem reveals_width (secret : String) (width : Nat) :
    ∃ text, revealed? secret width = some text ∧
      (∀ asked : Option Nat, asked.getD greatestWidth = width → shown secret asked = text) ∧
      (∀ (kind : SecretKind) (asked : Option Nat), asked.getD kind.quotedWidth = width →
        kind.shownQuoted secret asked = "\"" ++ text ++ "\"") ∧
      (2 ≤ width → secret.length < width → text = secret) ∧
      (2 ≤ width → width ≤ secret.length →
        text = String.ofList (secret.toList.take (width - 1)) ++ ellipsis) ∧
      (width ≤ 1 → text = ellipsis) ∧
      text.length ≤ max width 1 := by
  obtain ⟨text, htext⟩ := Option.isSome_iff_exists.1 (isSome_revealed? secret width)
  have hrevealed : revealed secret width = text := by
    simp [revealed, htext]
  refine ⟨text, htext, ?_, ?_, ?_⟩
  · rintro asked rfl
    exact hrevealed
  · rintro kind asked rfl
    rw [SecretKind.shownQuoted, hrevealed]
  · by_cases hwide : 2 ≤ width
    · rw [revealed?_of_two_le secret hwide, Option.some.injEq] at htext
      subst htext
      split
      · rename_i hshort
        exact ⟨fun _ _ => rfl, by omega, by omega, by omega⟩
      · rename_i hlong
        refine ⟨by omega, fun _ _ => rfl, by omega, ?_⟩
        have hellipsis : ellipsis.length = 1 := rfl
        simp [hellipsis]
        omega
    · have hnarrow : revealed? secret width = some ellipsis := by
        match width, hwide with
        | 0, _ => rfl
        | 1, _ => rfl
        | last + 2, hwide => omega
      rw [hnarrow, Option.some.injEq] at htext
      subst htext
      exact ⟨by omega, by omega, fun _ => rfl, Nat.le_max_right width 1⟩

/-- A refresh token of five characters, of which each takes three bytes, is cut at the width at which
it is quoted, and shown as it is where there is room for one character more. -/
theorem reveals_width_multibyte :
    2 ≤ 5 ∧ 5 ≤ "日本語鍵印".length ∧ "日本語鍵印".length < 6 ∧
      SecretKind.refresh.shownQuoted "日本語鍵印" none = "\"日本語鍵…\"" ∧
      shown "日本語鍵印" (some 6) = "日本語鍵印" := by
  have hlong : 5 ≤ "日本語鍵印".length := by decide
  have hshort : "日本語鍵印".length < 6 := by decide
  obtain ⟨cut, _, _, hquoted, _, hcut, _⟩ := reveals_width "日本語鍵印" 5
  obtain ⟨whole, _, hshown, _, hwhole, _⟩ := reveals_width "日本語鍵印" 6
  have hchars : String.ofList ("日本語鍵印".toList.take (5 - 1)) ++ ellipsis = "日本語鍵…" := by
    decide
  refine ⟨by decide, hlong, hshort, ?_, ?_⟩
  · rw [hquoted .refresh none rfl, hcut (by decide) hlong, hchars]
    decide
  · rw [hshown (some 6) rfl, hwhole (by decide) hshort]

end SilentAuth
