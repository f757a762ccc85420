import SilentAuth.Proofs.Text.Pieces
import SilentAuth.Proofs.Url.Places

/-!
# Paths in normal form

The segments of a path that was read are in normal form: nothing in them has to be encoded, nothing
cuts them, and they do not say to stay or to go up. So a path that is written with them is read as
these segments.

* `Url.IsSegment`: a segment in normal form.
* `Url.isSegment_of_mem_readPath`, `Url.isSegment_of_mem_readPathAfterHost`: the segments of a path
  that was read.
* `Url.readPathAfterHost_write`: a path that is written with such segments.
-/

namespace SilentAuth

/-! ### Encoded characters -/

namespace Percent

/-- A path holds hexadecimal digits as they are. -/
theorem hexDigit_plain {n : Nat} (h : n < 16) :
    path.encodes (hexDigit n) = false ∧ Url.isStroke (hexDigit n) = false := by
  have hall : ∀ n < 16,
      path.encodes (hexDigit n) = false ∧ Url.isStroke (hexDigit n) = false := by decide
  exact hall n h

/-- What a byte is encoded as needs no encoding, and cuts no path. -/
theorem mem_encodeByte {b : UInt8} {c : Char} (h : c ∈ encodeByte b) :
    path.encodes c = false ∧ Url.isStroke c = false := by
  have hbyte := b.toNat_lt
  rw [encodeByte, List.mem_cons, List.mem_cons, List.mem_singleton] at h
  rcases h with rfl | rfl | rfl
  · decide
  · exact hexDigit_plain (by omega)
  · exact hexDigit_plain (by omega)

/-- An encoded text needs no encoding, and cuts a path only where the text did. -/
theorem mem_encode {cs : List Char} {c : Char} (h : c ∈ encode path cs) :
    path.encodes c = false ∧ (Url.isStroke c = false ∨ c ∈ cs) := by
  obtain ⟨d, hd, hc⟩ := List.mem_flatMap.1 h
  unfold encodeChar at hc
  split at hc
  · obtain ⟨b, _, hc⟩ := List.mem_flatMap.1 hc
    exact ⟨(mem_encodeByte hc).1, .inl (mem_encodeByte hc).2⟩
  · rename_i hkept
    rw [List.mem_singleton.1 hc]
    exact ⟨by simpa using hkept, .inr hd⟩

/-- A text that needs no encoding is encoded as itself. -/
theorem encode_of_plain {set : CharSet} {cs : List Char} (h : ∀ c ∈ cs, set.encodes c = false) :
    encode set cs = cs := by
  induction cs with
  | nil => rfl
  | cons c rest ih =>
    have hrest := ih fun d hd => h d (List.mem_cons_of_mem _ hd)
    rw [encode] at hrest
    rw [encode, List.flatMap_cons, hrest, encodeChar, h c List.mem_cons_self]
    rfl

/-- The first byte of a character is that of a dot only for a dot. -/
theorem exists_utf8EncodeChar (c : Char) :
    ∃ b rest, String.utf8EncodeChar c = b :: rest ∧ (b.toNat = 0x2E → c = '.') := by
  unfold String.utf8EncodeChar
  dsimp only
  split
  · refine ⟨_, [], rfl, fun hdot => ?_⟩
    rw [UInt8.toNat_ofNat'] at hdot
    apply Char.toNat_inj.1
    show c.val.toNat = 46
    omega
  · split
    · refine ⟨_, _, rfl, fun hdot => ?_⟩
      rw [UInt8.toNat_ofNat'] at hdot
      omega
    · split
      · refine ⟨_, _, rfl, fun hdot => ?_⟩
        rw [UInt8.toNat_ofNat'] at hdot
        omega
      · refine ⟨_, _, rfl, fun hdot => ?_⟩
        rw [UInt8.toNat_ofNat'] at hdot
        omega

/-- The digits of a byte say a dot only for the byte of a dot. -/
theorem byte_of_dot {n : Nat} (h : n < 256) (htwo : hexDigit (n / 16) = '2') :
    hexDigit (n % 16) ≠ 'e' ∧ (hexDigit (n % 16) = 'E' → n = 0x2E) := by
  have hhigh : ∀ m < 16, hexDigit m = '2' → m = 2 := by decide
  have hlow : ∀ m < 16, hexDigit m ≠ 'e' ∧ (hexDigit m = 'E' → m = 14) := by decide
  obtain ⟨hsmall, hcapital⟩ := hlow (n % 16) (by omega)
  refine ⟨hsmall, fun hE => ?_⟩
  have := hhigh (n / 16) (by omega) htwo
  have := hcapital hE
  omega

/-- A character is encoded with a percent sign and two digits at first, which do not say a dot. -/
theorem exists_encodeChar {c : Char} (h : path.encodes c = true) :
    ∃ high low rest, encodeChar path c = '%' :: high :: low :: rest ∧
      (high = '2' → low ≠ 'e' ∧ low ≠ 'E') := by
  obtain ⟨b, rest, hbytes, hdot⟩ := exists_utf8EncodeChar c
  refine ⟨hexDigit (b.toNat / 16), hexDigit (b.toNat % 16), rest.flatMap encodeByte, ?_, ?_⟩
  · rw [encodeChar, if_pos h, hbytes, List.flatMap_cons]
    rfl
  · intro htwo
    obtain ⟨hsmall, hcapital⟩ := byte_of_dot b.toNat_lt htwo
    refine ⟨hsmall, fun hE => ?_⟩
    rw [hdot (hcapital hE)] at h
    exact absurd h (by decide)

end Percent

namespace Url

/-! ### Dots -/

/-- A percent sign stays if the digits after it do not say a dot. -/
theorem percent_mem_dotsDecoded {high low : Char} (h : high = '2' → low ≠ 'e' ∧ low ≠ 'E')
    (before after : List Char) : '%' ∈ dotsDecoded (before ++ '%' :: high :: low :: after) := by
  -- what says a dot ends before the sign
  have hcut : ∀ (front : List Char) (e : Char) (rest : List Char), e ≠ '%' →
      front ++ '%' :: high :: low :: after = '2' :: e :: rest → ∃ back, front = '2' :: e :: back := by
    intro front e rest he heq
    match front with
    | [] => cases heq
    | [d] =>
      simp only [List.cons_append, List.nil_append, List.cons.injEq] at heq
      exact absurd heq.2.1.symm he
    | d :: d' :: back =>
      simp only [List.cons_append, List.cons.injEq] at heq
      exact ⟨back, by rw [heq.1, heq.2.1]⟩
  induction before using dotsDecoded.induct with
  | case1 rest ih => exact List.mem_cons_of_mem _ ih
  | case2 rest ih => exact List.mem_cons_of_mem _ ih
  | case3 c rest hsmall hcapital ih =>
    rw [List.cons_append, dotsDecoded]
    · exact List.mem_cons_of_mem _ ih
    · intro more hc heq
      obtain ⟨back, hback⟩ := hcut rest 'e' more (by decide) heq
      exact hsmall back hc hback
    · intro more hc heq
      obtain ⟨back, hback⟩ := hcut rest 'E' more (by decide) heq
      exact hcapital back hc hback
  | case4 =>
    rw [List.nil_append, dotsDecoded]
    · exact List.mem_cons_self
    · intro more _ heq
      cases heq
      exact (h rfl).1 rfl
    · intro more _ heq
      cases heq
      exact (h rfl).2 rfl

/-- If a text is encoded, it says no dots. -/
theorem percent_mem_of_encodes {cs : List Char} {c : Char} (hc : c ∈ cs)
    (h : Percent.path.encodes c = true) : '%' ∈ dotsDecoded (Percent.encode Percent.path cs) := by
  obtain ⟨front, back, rfl⟩ := List.append_of_mem hc
  obtain ⟨high, low, rest, hchar, hdot⟩ := Percent.exists_encodeChar h
  rw [Percent.encode, List.flatMap_append, List.flatMap_cons, hchar]
  exact percent_mem_dotsDecoded hdot _ _

/-! ### Segments in normal form -/

/-- A segment that is read as itself. -/
structure IsSegment (cs : List Char) : Prop where
  plain : ∀ c ∈ cs, Percent.path.encodes c = false
  uncut : ∀ c ∈ cs, isStroke c = false
  name : Segment.of cs = .name cs

/-- The empty segment is in normal form. -/
theorem isSegment_nil : IsSegment [] := ⟨by simp, by simp, by decide⟩

/-- What is read as a segment is one in normal form. -/
theorem isSegment_of_of {part cs : List Char} (huncut : ∀ c ∈ part, isStroke c = false)
    (h : Segment.of part = .name cs) : IsSegment cs := by
  unfold Segment.of at h
  split at h
  · cases h
  · rename_i hstay
    split at h
    · cases h
    · rename_i hup
      cases h
      have hplain : ∀ c ∈ Percent.encode Percent.path part, Percent.path.encodes c = false :=
        fun c hc => (Percent.mem_encode hc).1
      refine ⟨hplain, ?_, ?_⟩
      · intro c hc
        rcases (Percent.mem_encode hc).2 with hstroke | hmem
        · exact hstroke
        · exact huncut c hmem
      · -- dots in the encoded text were dots in the text, since what is encoded says none
        have hdots : ∀ dots : List Char, '%' ∉ dots → dotsDecoded part ≠ dots →
            dotsDecoded (Percent.encode Percent.path part) ≠ dots := by
          intro dots hsign hne heq
          by_cases hencoded : ∃ c ∈ part, Percent.path.encodes c = true
          · obtain ⟨c, hc, hencodes⟩ := hencoded
            exact hsign (heq ▸ percent_mem_of_encodes hc hencodes)
          · rw [Percent.encode_of_plain] at heq
            · exact hne heq
            · intro c hc
              by_contra hencodes
              exact hencoded ⟨c, hc, by simpa using hencodes⟩
        unfold Segment.of
        rw [if_neg (hdots _ (by decide) hstay), if_neg (hdots _ (by decide) hup),
          Percent.encode_of_plain hplain]

/-! ### Paths that were read -/

/-- Going up leaves segments that were there before. -/
theorem mem_goUp {done : List (List Char)} {s : List Char} (h : s ∈ goUp done) : s ∈ done := by
  unfold goUp at h
  split at h
  · exact h
  · exact List.dropLast_subset _ h

/-- Resolving a path brings in nothing but segments in normal form. -/
theorem isSegment_of_mem_resolve {parts : List (List Char)}
    (huncut : ∀ part ∈ parts, ∀ c ∈ part, isStroke c = false) {done : Resolved}
    (hdone : ∀ s ∈ done.segments, IsSegment s) :
    ∀ s ∈ (resolve false done parts).segments, IsSegment s := by
  induction parts generalizing done with
  | nil => exact hdone
  | cons part rest ih =>
    have hothers : ∀ other ∈ rest, ∀ c ∈ other, isStroke c = false :=
      fun other hother => huncut other (List.mem_cons_of_mem _ hother)
    have hclose : ∀ above : Resolved, (∀ s ∈ above.segments, IsSegment s) →
        ∀ s ∈ (if rest.isEmpty then { above with segments := above.segments ++ [[]] }
          else above).segments, IsSegment s := by
      intro above habove s hs
      split at hs
      · rcases List.mem_append.1 hs with hs | hs
        · exact habove s hs
        · rw [List.mem_singleton.1 hs]
          exact isSegment_nil
      · exact habove s hs
    rw [resolve]
    dsimp only
    split
    · exact ih hothers (hclose done hdone)
    · exact ih hothers (hclose _ fun s hs => hdone s (mem_goUp hs))
    · rename_i cs hcs
      refine ih hothers fun s hs => ?_
      rcases List.mem_append.1 hs with hs | hs
      · exact hdone s hs
      · rw [List.mem_singleton.1 hs]
        exact isSegment_of_of (huncut part List.mem_cons_self) hcs

/-- Segments in normal form are resolved to themselves. -/
theorem resolve_of_isSegment {list : List (List Char)} (h : ∀ s ∈ list, IsSegment s)
    (done : Resolved) : (resolve false done list).segments = done.segments ++ list := by
  induction list generalizing done with
  | nil => simp [resolve]
  | cons s rest ih =>
    rw [resolve, (h s List.mem_cons_self).name]
    dsimp only
    rw [ih fun other hother => h other (List.mem_cons_of_mem _ hother)]
    simp [Resolved.add]

/-- A path with this scheme is cut at strokes of both kinds. -/
theorem readPath_https (cs : List Char) :
    readPath httpsScheme cs = resolve false ⟨[], false⟩ (splitAll isStroke cs) := by
  have hfile : decide (httpsScheme = fileScheme) = false := by decide
  unfold readPath
  simp only [strokes_https, hfile]
  rfl

/-- The segments of a path that was read are in normal form. -/
theorem isSegment_of_mem_readPath {cs : List Char} :
    ∀ s ∈ (readPath httpsScheme cs).segments, IsSegment s := by
  rw [readPath_https]
  apply isSegment_of_mem_resolve
  · exact fun part hpart c hc => (mem_of_mem_splitAll hpart hc).2
  · simp

/-- So are those of a path behind a host. -/
theorem isSegment_of_mem_readPathAfterHost {cs : List Char} :
    ∀ s ∈ (readPathAfterHost httpsScheme cs).segments, IsSegment s := by
  unfold readPathAfterHost
  split
  · intro s hs
    have hs : s = [] := by simpa [isSpecial_https] using hs
    rw [hs]
    exact isSegment_nil
  · split
    · exact isSegment_of_mem_readPath
    · exact isSegment_of_mem_readPath

/-- A path behind a host is read behind its first stroke. -/
theorem readPathAfterHost_stroke (cs : List Char) :
    readPathAfterHost httpsScheme ('/' :: cs) = readPath httpsScheme cs := by
  rw [readPathAfterHost, if_pos (by simp)]

/-- The text of a path is cut where its segments end. -/
theorem splitAll_flatMap {s : List Char} {rest : List (List Char)} (hs : IsSegment s)
    (hrest : ∀ other ∈ rest, IsSegment other) :
    splitAll isStroke (s ++ rest.flatMap ('/' :: ·)) = s :: rest := by
  induction rest generalizing s with
  | nil => rw [List.flatMap_nil, List.append_nil, splitAll_of_uncut hs.uncut]
  | cons other rest ih =>
    rw [List.flatMap_cons, List.cons_append, splitAll_append_cons hs.uncut rfl,
      ih (hrest other List.mem_cons_self) fun next hnext =>
        hrest next (List.mem_cons_of_mem _ hnext)]

/-- A path that is written with segments in normal form is read as these segments. -/
theorem readPathAfterHost_write {list : List (List Char)} (hne : list ≠ [])
    (h : ∀ s ∈ list, IsSegment s) :
    (readPathAfterHost httpsScheme (UrlPath.write (.segments list))).segments = list := by
  cases list with
  | nil => exact absurd rfl hne
  | cons s rest =>
    have hsplit := splitAll_flatMap (h s List.mem_cons_self) fun other hother =>
      h other (List.mem_cons_of_mem _ hother)
    rw [UrlPath.write, List.flatMap_cons, List.cons_append, readPathAfterHost_stroke,
      readPath_https, hsplit, resolve_of_isSegment h]
    rfl

end Url

end SilentAuth
