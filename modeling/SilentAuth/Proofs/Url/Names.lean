import Mathlib.Data.Bool.AllAny
import SilentAuth.Proofs.Json.Members
import SilentAuth.Proofs.Text.Pieces
import SilentAuth.Url.Host

/-!
# Host names in ASCII

What a host name becomes in ASCII holds only characters that a host name may hold; and a name that
is in ASCII and lower case becomes nothing else. So a host name that was read is not changed when it
is read again.

* `Punycode.mem_of_decode?`, `Punycode.mem_encode`: the characters of Punycode.
* `Domain.allowed_of_toAscii?`: the characters of a host name in ASCII.
* `Domain.eq_of_toAscii?`: a name in ASCII and lower case stands for itself.
* `Ipv4.isMeant_map_toLower`: whether a name is meant as an address does not depend on its case.
-/

namespace SilentAuth

/-! ### Letters -/

/-- The capital letters. -/
def capitals : List Char := "ABCDEFGHIJKLMNOPQRSTUVWXYZ".toList

/-- Only capital letters have another form in lower case. -/
theorem toLower_cases (c : Char) : (c.isUpper = false ∧ c.toLower = c) ∨ c ∈ capitals := by
  have hall : ∀ n ∈ List.range' 65 26, Char.ofNat n ∈ capitals := by decide
  have hA : ('A'.val).toNat = 65 := rfl
  have hZ : ('Z'.val).toNat = 90 := rfl
  by_cases hupper : c.val ≥ 'A'.val ∧ c.val ≤ 'Z'.val
  · right
    rw [ge_iff_le, UInt32.le_iff_toNat_le, UInt32.le_iff_toNat_le, hA, hZ] at hupper
    have hmem := hall c.toNat (List.mem_range'_1.2 ⟨hupper.1, Nat.lt_succ_of_le hupper.2⟩)
    rwa [Char.ofNat_toNat] at hmem
  · left
    refine ⟨decide_eq_false hupper, ?_⟩
    unfold Char.toLower
    exact dif_neg hupper

/-- What is the same for capital letters in lower case is the same for all characters. -/
theorem congr_toLower {β : Type} [DecidableEq β] (f : Char → β)
    (h : capitals.all (fun c => decide (f c.toLower = f c)) = true) (c : Char) :
    f c.toLower = f c := by
  rcases toLower_cases c with ⟨_, heq⟩ | hmem
  · rw [heq]
  · exact List.all_iff_forall_prop.1 h c hmem

/-- A small letter is no capital. -/
theorem isUpper_toLower (c : Char) : c.toLower.isUpper = false := by
  rcases toLower_cases c with ⟨hupper, heq⟩ | hmem
  · rw [heq, hupper]
  · have hall : ∀ c ∈ capitals, c.toLower.isUpper = false := List.all_iff_forall_prop.1 (by decide)
    exact hall c hmem

/-! ### ASCII as bytes -/

namespace Utf8

/-- ASCII text is encoded in one byte a character. -/
theorem encode_ascii {cs : List Char} (h : ∀ c ∈ cs, c.toNat < 0x80) :
    encode cs = cs.map fun c => UInt8.ofNat c.toNat := by
  induction cs with
  | nil => rfl
  | cons c rest ih =>
    have hc : c.val.toNat ≤ 127 := Nat.le_of_lt_succ (h c List.mem_cons_self)
    rw [encode, List.flatMap_cons, List.map_cons, ← ih fun d hd => h d (List.mem_cons_of_mem _ hd)]
    unfold String.utf8EncodeChar
    dsimp only
    rw [if_pos hc]
    rfl

/-- Such bytes are read as the same text. -/
theorem lossy_ascii {cs : List Char} (h : ∀ c ∈ cs, c.toNat < 0x80) :
    lossy (cs.map fun c => UInt8.ofNat c.toNat) = cs := by
  have hdecode : decodeFrom none (cs.map fun c => UInt8.ofNat c.toNat) = cs.map some := by
    induction cs with
    | nil => rfl
    | cons c rest ih =>
      have hc := h c List.mem_cons_self
      have hbyte : (UInt8.ofNat c.toNat).toNat = c.toNat := by
        rw [UInt8.toNat_ofNat']
        omega
      have hstep : step none c.toNat = ([some c], none) := by
        simp [step, start, lead, hc]
      rw [List.map_cons, decodeFrom, hbyte, hstep]
      dsimp only
      rw [ih fun d hd => h d (List.mem_cons_of_mem _ hd)]
      rfl
  rw [lossy, decode, hdecode, List.map_map]
  simp

end Utf8

/-- Bytes that encode no bytes stand for themselves. -/
theorem Percent.decode_eq_self {bytes : List UInt8} (h : ∀ b ∈ bytes, b.toNat ≠ 0x25) :
    Percent.decode bytes = bytes := by
  induction bytes with
  | nil => rfl
  | cons b rest ih =>
    have hb := h b List.mem_cons_self
    have hrest := ih fun c hc => h c (List.mem_cons_of_mem _ hc)
    cases rest with
    | nil => simp [Percent.decode, hb]
    | cons c rest =>
      cases rest with
      | nil => simp [Percent.decode, hb]
      | cons d rest => rw [Percent.decode, if_neg hb, hrest]

/-- A text in ASCII that encodes no bytes is read as it is. -/
theorem lossy_decode_ascii {cs : List Char} (h : ∀ c ∈ cs, c.toNat < 0x80)
    (hpercent : '%' ∉ cs) : Utf8.lossy (Percent.decode (Utf8.encode cs)) = cs := by
  rw [Utf8.encode_ascii h, Percent.decode_eq_self, Utf8.lossy_ascii h]
  intro b hb
  obtain ⟨c, hc, rfl⟩ := List.mem_map.1 hb
  intro hsign
  have hascii := h c hc
  rw [UInt8.toNat_ofNat'] at hsign
  have hcode : c.toNat = '%'.toNat := by
    have : '%'.toNat = 0x25 := rfl
    omega
  exact hpercent (Char.toNat_inj.1 hcode ▸ hc)

/-! ### The characters of Punycode -/

namespace Punycode

/-- The characters that are digits. -/
def IsDigit (c : Char) : Prop := (digitValue? c).isSome = true

/-- The digits that are written are digits. -/
theorem isDigit_digitChar {d : Nat} (h : d < 36) : IsDigit (digitChar d) := by
  have hall : ∀ d < 36, (digitValue? (digitChar d)).isSome = true := by decide
  exact hall d h

/-- A threshold is less than the base. -/
theorem threshold_lt (place bias : Nat) : threshold place bias < 36 := by
  unfold threshold
  omega

/-- A number is written in digits. -/
theorem isDigit_of_mem_digits {bias place q : Nat} {c : Char} (h : c ∈ digits bias place q) :
    IsDigit c := by
  have hlt := threshold_lt place bias
  fun_induction digits bias place q with
  | case1 place q t hsmall =>
    rw [List.mem_singleton.1 h]
    exact isDigit_digitChar (by omega)
  | case2 place q t hlarge ih =>
    rcases List.mem_cons.1 h with rfl | h
    · have hmod := Nat.mod_lt (q - t) (show 36 - t > 0 by omega)
      exact isDigit_digitChar (by omega)
    · exact ih h (threshold_lt _ _)

/-- A writer that has put out nothing but digits. -/
def Writer.Clean (w : Writer) : Prop := ∀ c ∈ w.output, IsDigit c

/-- Writing stays clean when a character is passed. -/
theorem Writer.Clean.pass {w : Writer} (h : w.Clean) (basic code : Nat) (c : Char) :
    (w.pass basic code c).Clean := by
  unfold Writer.pass
  split
  · exact h
  · split
    · intro d hd
      rcases List.mem_append.1 hd with hd | hd
      · exact h d hd
      · exact isDigit_of_mem_digits hd
    · exact h

/-- Writing stays clean when a label is passed. -/
theorem Writer.Clean.foldl_pass {w : Writer} (h : w.Clean) (basic code : Nat) (label : List Char) :
    (label.foldl (Writer.pass basic code) w).Clean := by
  induction label generalizing w with
  | nil => exact h
  | cons c rest ih => exact ih (h.pass basic code c)

/-- Writing stays clean to the end of the label. -/
theorem Writer.Clean.writeFrom {w : Writer} (h : w.Clean) (label : List Char) (basic next : Nat)
    (codes : List Nat) : (Punycode.writeFrom label basic next w codes).Clean := by
  induction codes generalizing w next with
  | nil => exact h
  | cons code codes ih =>
    have hstart : Writer.Clean { w with delta := w.delta + (code - next) * (w.placed + 1) } := h
    apply ih
    exact hstart.foldl_pass basic code label

/-- Punycode is made of the ASCII characters of the label, a hyphen, and digits. -/
theorem mem_encode {label : List Char} {c : Char} (h : c ∈ encode label) :
    (c ∈ label ∧ c.toNat < 0x80) ∨ c = '-' ∨ IsDigit c := by
  unfold encode at h
  dsimp only at h
  rcases List.mem_append.1 h with h | h
  · split at h
    · cases h
    · rcases List.mem_append.1 h with h | h
      · obtain ⟨hmem, hascii⟩ := List.mem_filter.1 h
        exact .inl ⟨hmem, of_decide_eq_true hascii⟩
      · exact .inr (.inl (List.mem_singleton.1 h))
  · refine .inr (.inr ?_)
    have hstart : Writer.Clean ⟨[], 0, 72, (label.filter fun c => c.toNat < 0x80).length⟩ := by
      simp [Writer.Clean]
    exact hstart.writeFrom label _ _ _ c h

/-- What is read are digits, and what is in place stays there. -/
theorem take?_eq_some {r r' : Reader} {c : Char} (h : r.take? c = some r') :
    IsDigit c ∧ ∀ d ∈ r.output, d ∈ r'.output := by
  obtain ⟨value, hvalue, h⟩ := Option.bind_eq_some_iff.1 h
  refine ⟨by simp [IsDigit, hvalue], ?_⟩
  dsimp only at h
  split at h
  · cases h
    exact fun d hd => hd
  · split at h
    · cases h
      intro d hd
      dsimp only [insertAt]
      rw [← List.take_append_drop _ r.output] at hd
      rcases List.mem_append.1 hd with hd | hd
      · exact List.mem_append_left _ hd
      · exact List.mem_append_right _ (List.mem_cons_of_mem _ hd)
    · cases h

/-- What is read is made of digits, and no character that was read before is lost. -/
theorem foldlM_take?_eq_some {r r' : Reader} {code : List Char}
    (h : code.foldlM Reader.take? r = some r') :
    (∀ c ∈ code, IsDigit c) ∧ ∀ d ∈ r.output, d ∈ r'.output := by
  induction code generalizing r with
  | nil =>
    cases h
    exact ⟨by simp, fun d hd => hd⟩
  | cons c rest ih =>
    rw [List.foldlM_cons] at h
    obtain ⟨next, hnext, h⟩ := Option.bind_eq_some_iff.1 h
    obtain ⟨hdigit, hstays⟩ := take?_eq_some hnext
    obtain ⟨hdigits, hstay⟩ := ih h
    refine ⟨?_, fun d hd => hstay d (hstays d hd)⟩
    intro d hd
    rcases List.mem_cons.1 hd with rfl | hd
    · exact hdigit
    · exact hdigits d hd

/-- A text is cut at its last hyphen. -/
theorem mem_of_mem_cut {cs : List Char} {c : Char} (h : c ∈ cs) :
    let tail := (cs.reverse.takeWhile (· != '-')).reverse
    c ∈ cs.take (cs.length - tail.length - 1) ∨ c = '-' ∨ c ∈ tail := by
  intro tail
  have hcut : cs = (cs.reverse.dropWhile (· != '-')).reverse ++ tail := by
    rw [← List.reverse_append, List.takeWhile_append_dropWhile, List.reverse_reverse]
  cases hdrop : cs.reverse.dropWhile (· != '-') with
  | nil =>
    rw [hdrop, List.reverse_nil, List.nil_append] at hcut
    exact .inr (.inr (hcut ▸ h))
  | cons mark front =>
    have hmark : mark = '-' := by
      have hhead := List.head?_dropWhile_not (· != '-') cs.reverse
      rw [hdrop] at hhead
      simpa using hhead
    rw [hdrop, hmark, List.reverse_cons, List.append_assoc] at hcut
    have hfront : cs.take (cs.length - tail.length - 1) = front.reverse := by
      have hcount : cs.length - tail.length - 1 = front.reverse.length := by
        have hlength := congrArg List.length hcut
        simp only [List.length_append, List.length_cons, List.length_nil] at hlength
        omega
      rw [hcount, hcut, List.take_left]
    rw [hfront]
    rw [hcut] at h
    simpa [or_assoc] using h

/-- What is read as a label in Punycode is made of characters of the label, hyphens, and digits. -/
theorem mem_of_decode? {code meant : List Char} (h : decode? code = some meant) {c : Char}
    (hc : c ∈ code) : c ∈ meant ∨ c = '-' ∨ IsDigit c := by
  unfold decode? at h
  obtain ⟨r, hr, h⟩ := Option.bind_eq_some_iff.1 h
  obtain ⟨hdigits, hstay⟩ := foldlM_take?_eq_some hr
  split at h
  · cases h
    split at hdigits
    · exact .inr (.inr (hdigits c hc))
    · rcases mem_of_mem_cut hc with hfront | hmark | htail
      · exact .inl (hstay c hfront)
      · exact .inr (.inl hmark)
      · exact .inr (.inr (hdigits c htail))
  · cases h

end Punycode

/-! ### The characters of host names -/

namespace Domain

/-- A character that a host name in ASCII may hold. -/
def IsAllowed (c : Char) : Prop := c.toNat < 0x80 ∧ isForbidden c = false

instance (c : Char) : Decidable (IsAllowed c) := inferInstanceAs (Decidable (_ ∧ _))

/-- A name may hold the digits. -/
theorem isAllowed_of_isDigit {c : Char} (h : Punycode.IsDigit c) : IsAllowed c := by
  have hall : ∀ n < 0x80, (Punycode.digitValue? (Char.ofNat n)).isSome = true →
      isForbidden (Char.ofNat n) = false := by decide
  have hascii : c.toNat < 0x80 := by
    have hz : ('z'.val).toNat = 122 := rfl
    have hZ : ('Z'.val).toNat = 90 := rfl
    have h9 : ('9'.val).toNat = 57 := rfl
    unfold Punycode.IsDigit Punycode.digitValue? at h
    simp only [Char.le_def, UInt32.le_iff_toNat_le] at h
    show c.val.toNat < 0x80
    split at h
    · omega
    · split at h
      · omega
      · split at h
        · omega
        · cases h
  refine ⟨hascii, ?_⟩
  have hc := hall c.toNat hascii
  rw [Char.ofNat_toNat] at hc
  exact hc h

/-- A label that stands for itself holds only characters that may stand in a host name. -/
theorem not_isForbidden_of_isValidLabel {label : List Char} (h : isValidLabel label = true) {c : Char}
    (hc : c ∈ label) : isForbidden c = false := by
  unfold isValidLabel at h
  simp only [Bool.and_eq_true, List.all_eq_true] at h
  have hchar := h.1.1.1 c hc
  simpa using hchar.1.2

/-- A label is in Punycode already, or is ASCII and stands for itself, or is written in Punycode. -/
theorem Label.of?_eq_some {text : List Char} {label : Label} (h : Label.of? text = some label) :
    (label.ascii = text ∧ isAscii text = true ∧ isValidLabel label.meant = true ∧
      ∃ code, text = tag ++ code ∧ Punycode.decode? code = some label.meant) ∨
    (label.ascii = text ∧ isAscii text = true ∧ isValidLabel text = true) ∨
    (label.ascii = tag ++ Punycode.encode text ∧ isAscii text = false ∧
      isValidLabel text = true) := by
  unfold Label.of? at h
  split at h
  · rename_i htag
    left
    unfold Label.ofTagged? at h
    dsimp only at h
    split at h
    · cases h
    · rename_i hcode
      obtain ⟨meant, hmeant, h⟩ := Option.bind_eq_some_iff.1 h
      split at h
      · rename_i hvalid
        cases h
        simp only [Bool.and_eq_true] at hvalid
        simp only [Bool.or_eq_true, Bool.not_eq_true', not_or] at hcode
        refine ⟨rfl, by simpa using hcode.1.1.1, hvalid.1.1, _, ?_, hmeant⟩
        conv_lhs => rw [← List.take_append_drop tag.length text, htag]
      · cases h
  · right
    unfold Label.ofUntagged? at h
    split at h
    · cases h
    · rename_i hvalid
      rw [Bool.not_eq_true', Bool.not_eq_false] at hvalid
      split at h
      · rename_i hascii
        cases h
        exact .inl ⟨rfl, hascii, hvalid⟩
      · rename_i hascii
        split at h
        · cases h
        · dsimp only at h
          split at h
          · cases h
            exact .inr ⟨rfl, by simpa using hascii, hvalid⟩
          · cases h

/-- The characters of an ASCII text have seven bits. -/
theorem toNat_lt_of_isAscii {cs : List Char} (h : isAscii cs = true) {c : Char} (hc : c ∈ cs) :
    c.toNat < 0x80 := by
  unfold isAscii at h
  simpa using List.all_eq_true.1 h c hc

/-- A label in ASCII holds only characters that a host name may hold. -/
theorem Label.allowed_of_of? {text : List Char} {label : Label} (h : Label.of? text = some label)
    {c : Char} (hc : c ∈ label.ascii) : IsAllowed c := by
  have htag : ∀ c ∈ tag, IsAllowed c := List.all_iff_forall_prop.1 (by decide)
  have hhyphen : IsAllowed '-' := by decide
  rcases Label.of?_eq_some h with
    ⟨hsame, hascii, hvalid, code, hcode, hmeant⟩ | ⟨hsame, hascii, hvalid⟩ | ⟨hcode, _, hvalid⟩
  · rw [hsame] at hc
    have hlt := toNat_lt_of_isAscii hascii hc
    rw [hcode] at hc
    rcases List.mem_append.1 hc with hc | hc
    · exact htag c hc
    · rcases Punycode.mem_of_decode? hmeant hc with hc | rfl | hdigit
      · exact ⟨hlt, not_isForbidden_of_isValidLabel hvalid hc⟩
      · exact hhyphen
      · exact isAllowed_of_isDigit hdigit
  · rw [hsame] at hc
    exact ⟨toNat_lt_of_isAscii hascii hc, not_isForbidden_of_isValidLabel hvalid hc⟩
  · rw [hcode] at hc
    rcases List.mem_append.1 hc with hc | hc
    · exact htag c hc
    · rcases Punycode.mem_encode hc with ⟨hc, hlt⟩ | rfl | hdigit
      · exact ⟨hlt, not_isForbidden_of_isValidLabel hvalid hc⟩
      · exact hhyphen
      · exact isAllowed_of_isDigit hdigit

/-- A host name in ASCII holds only characters that it may hold. -/
theorem allowed_of_toAscii? {name ascii : List Char} (h : toAscii? name = some ascii) {c : Char}
    (hc : c ∈ ascii) : IsAllowed c := by
  unfold toAscii? at h
  obtain ⟨mapped, _, h⟩ := Option.bind_eq_some_iff.1 h
  obtain ⟨labels, hlabels, h⟩ := Option.bind_eq_some_iff.1 h
  split at h
  · cases h
    rcases mem_intercalate hc with rfl | ⟨piece, hpiece, hc⟩
    · decide
    · obtain ⟨label, hlabel, rfl⟩ := List.mem_map.1 hpiece
      have hmem : some label ∈ labels.map some := List.mem_map_of_mem hlabel
      rw [← mapM_eq_some_iff.1 hlabels] at hmem
      obtain ⟨text, _, htext⟩ := List.mem_map.1 hmem
      exact Label.allowed_of_of? htext hc
  · cases h

/-! ### Names that stand for themselves -/

/-- A label in ASCII stands for itself. -/
theorem Label.ascii_of_isAscii {text : List Char} {label : Label} (h : Label.of? text = some label)
    (hascii : isAscii text = true) : label.ascii = text := by
  rcases Label.of?_eq_some h with ⟨hsame, _⟩ | ⟨hsame, _⟩ | ⟨_, hnot, _⟩
  · exact hsame
  · exact hsame
  · rw [hascii] at hnot
    cases hnot

/-- What was read of each item gives the item back, if each reading does. -/
theorem map_eq_of_mapM {α β : Type} {read? : α → Option β} {write : β → α} {items : List α}
    {values : List β} (h : items.mapM read? = some values)
    (hwrite : ∀ item ∈ items, ∀ value, read? item = some value → write value = item) :
    values.map write = items := by
  induction items generalizing values with
  | nil =>
    cases h
    rfl
  | cons item rest ih =>
    rw [List.mapM_cons] at h
    obtain ⟨value, hvalue, h⟩ := Option.bind_eq_some_iff.1 h
    obtain ⟨others, hothers, h⟩ := Option.bind_eq_some_iff.1 h
    cases h
    rw [List.map_cons, hwrite item List.mem_cons_self value hvalue,
      ih hothers fun other hother => hwrite other (List.mem_cons_of_mem _ hother)]

/-- A character of ASCII that is no capital is mapped to itself. -/
theorem map?_of_lower {c : Char} (hascii : c.toNat < 0x80) (hupper : c.isUpper = false) :
    map? c = some [c] := by
  have hstatus : status c = .valid := by
    simp [status, hascii, hupper]
  unfold map?
  rw [hstatus]

/-- A name in ASCII and lower case stands for itself. -/
theorem eq_of_toAscii? {name ascii : List Char} (hascii : ∀ c ∈ name, c.toNat < 0x80)
    (hupper : ∀ c ∈ name, c.isUpper = false) (h : toAscii? name = some ascii) : ascii = name := by
  have hmapped : name.mapM map? = some (name.map fun c => [c]) := by
    rw [mapM_eq_some_iff, List.map_map]
    exact List.map_congr_left fun c hc => map?_of_lower (hascii c hc) (hupper c hc)
  have hall : name.all (fun c => c.toNat < 0x80) = true := by simpa using hascii
  have hcomposed : Composition.compose (name.map fun c => [c]).flatten = name := by
    rw [← List.flatMap_def, List.flatMap_singleton', Composition.compose, if_pos hall]
  unfold toAscii? at h
  rw [hmapped, Option.bind_eq_bind, Option.bind_some, hcomposed] at h
  obtain ⟨labels, hlabels, h⟩ := Option.bind_eq_some_iff.1 h
  split at h
  · cases h
    have htexts : labels.map Label.ascii = splitAll (· = '.') name := by
      apply map_eq_of_mapM hlabels
      intro text htext label hlabel
      refine Label.ascii_of_isAscii hlabel (List.all_eq_true.2 fun c hc => ?_)
      exact decide_eq_true (hascii c (mem_of_mem_splitAll htext hc).1)
    rw [htexts, intercalate_splitAll]
  · cases h

end Domain

/-! ### Names in either case -/

namespace Ipv4

/-- The value of a digit does not depend on its case. -/
theorem digitValue?_toLower (c : Char) : digitValue? c.toLower = digitValue? c :=
  congr_toLower digitValue? (by decide) c

/-- Nor does the value of many digits. -/
theorem digits?_map_toLower (base : Nat) (cs : List Char) :
    digits? base (cs.map Char.toLower) = digits? base cs := by
  simp only [digits?, List.foldlM_map, digitValue?_toLower]

/-- A part of one character is a decimal digit. -/
theorem part?_singleton (c : Char) : part? [c] = digits? 10 [c] := by
  unfold part?
  split <;> simp_all

/-- A longer part is hexadecimal, octal or decimal, as its beginning tells. -/
theorem part?_cons_cons (c d : Char) (rest : List Char) :
    part? (c :: d :: rest) =
      if c == '0' then
        if d == 'x' || d == 'X' then digits? 16 rest else digits? 8 (d :: rest)
      else digits? 10 (c :: d :: rest) := by
  conv_lhs => unfold part?
  split <;> simp_all

/-- The value of a part does not depend on its case. -/
theorem part?_map_toLower (cs : List Char) : part? (cs.map Char.toLower) = part? cs := by
  match cs with
  | [] => rfl
  | [c] =>
    have h := digits?_map_toLower 10 [c]
    rw [List.map_cons, List.map_nil] at h
    rw [List.map_cons, List.map_nil, part?_singleton, part?_singleton, h]
  | c :: d :: rest =>
    have hzero := congr_toLower (· == '0') (by decide) c
    have hmark := congr_toLower (fun d => d == 'x' || d == 'X') (by decide) d
    have hoctal := digits?_map_toLower 8 (d :: rest)
    have hdecimal := digits?_map_toLower 10 (c :: d :: rest)
    simp only [List.map_cons] at hoctal hdecimal
    simp only [List.map_cons, part?_cons_cons, hzero, hmark, hoctal, hdecimal,
      digits?_map_toLower]

/-- Whether a name is meant as an address does not depend on its case. -/
theorem isMeant_map_toLower (name : List Char) :
    isMeant (name.map Char.toLower) = isMeant name := by
  have hdigits : ∀ cs : List Char,
      (cs.map Char.toLower).all Char.isDigit = cs.all Char.isDigit := by
    intro cs
    rw [List.all_map]
    congr 1
    funext c
    exact congr_toLower Char.isDigit (by decide) c
  have hdot : (fun c : Char => decide (c.toLower = '.')) = fun c => decide (c = '.') := by
    funext c
    exact congr_toLower (fun c => decide (c = '.')) (by decide) c
  unfold isMeant
  rw [splitAll_map, hdot, ← List.map_reverse]
  match (splitAll (fun c => decide (c = '.')) name).reverse with
  | [] => rfl
  | [[]] => rfl
  | [] :: previous :: _ => simp [hdigits, part?_map_toLower]
  | (c :: cs) :: _ =>
    have hall := hdigits (c :: cs)
    have hpart := part?_map_toLower (c :: cs)
    rw [List.map_cons] at hall hpart
    simp only [List.map_cons, List.isEmpty_cons, hall, hpart]

end Ipv4

end SilentAuth
