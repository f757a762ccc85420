import SilentAuth.Proofs.Json.Members
import SilentAuth.Proofs.Text.Pieces
import SilentAuth.Url.Address

/-!
# The text of an address is read as the address

* `Ipv4.write_of_read?_write`: an IPv4 address that was written is read as one with the same text.
* `Ipv6.read?_write`: an IPv6 address is read as it was written; `Ipv6.eight_of_read?`: it has eight
  pieces of 16 bits.
-/

namespace SilentAuth

/-! ### Digits -/

namespace Ipv4

/-- A digit is read as the value for which it was written. -/
theorem digitValue?_digitChar {d : Nat} (h : d < 16) :
    digitValue? (Nat.digitChar d) = some d := by
  have hall : ∀ d < 16, digitValue? (Nat.digitChar d) = some d := by decide
  exact hall d h

/-- Appends a digit to a number. -/
def append? (base n : Nat) (c : Char) : Option Nat := do
  let d ← digitValue? c
  if d < base then some (n * base + d) else none

/-- Digits are read one by one. -/
theorem digits?_eq (base : Nat) (cs : List Char) :
    digits? base cs = cs.foldlM (append? base) 0 := rfl

/-- One more digit makes the number so many times greater, and adds its value. -/
theorem append?_digitChar {base d : Nat} (hmax : base ≤ 16) (hd : d < base) (n : Nat) :
    append? base n (Nat.digitChar d) = some (n * base + d) := by
  simp [append?, digitValue?_digitChar (Nat.lt_of_lt_of_le hd hmax), hd]

/-- A digit that is appended adds less than the base. -/
theorem append?_lt {base n m : Nat} {c : Char} (h : append? base n c = some m) :
    m < (n + 1) * base := by
  obtain ⟨d, _, hd⟩ := Option.bind_eq_some_iff.1 h
  split at hd
  · cases hd
    rw [Nat.add_mul, Nat.one_mul]
    omega
  · cases hd

/-- The digits of a number say the number. -/
theorem digits?_toDigits {base : Nat} (hone : 1 < base) (hmax : base ≤ 16) (n : Nat) :
    digits? base (Nat.toDigits base n) = some n := by
  induction n using Nat.strongRecOn with
  | _ n ih =>
    rw [Nat.toDigits_eq_if hone]
    split
    · rename_i hlt
      rw [digits?_eq, List.foldlM_cons, append?_digitChar hmax hlt, Nat.zero_mul, Nat.zero_add]
      rfl
    · have hfirst := ih (n / base) (Nat.div_lt_self (by omega) hone)
      rw [digits?_eq] at hfirst ⊢
      rw [List.foldlM_append, hfirst, Option.bind_eq_bind, Option.bind_some, List.foldlM_cons,
        append?_digitChar hmax (Nat.mod_lt _ (by omega)), Nat.div_add_mod']
      rfl

/-- The characters of digits up to `f`. -/
def hexDigits : List Char := "0123456789abcdef".toList

/-- Numbers are written in hexadecimal digits, up to base sixteen. -/
theorem mem_hexDigits_of_mem_toDigits {base : Nat} (hone : 1 < base) (hmax : base ≤ 16) {n : Nat}
    {c : Char} (h : c ∈ Nat.toDigits base n) : c ∈ hexDigits := by
  have hdigit : ∀ d < 16, Nat.digitChar d ∈ hexDigits := by decide
  induction n using Nat.strongRecOn with
  | _ n ih =>
    rw [Nat.toDigits_eq_if hone] at h
    split at h
    · rename_i hlt
      rw [List.mem_singleton.1 h]
      exact hdigit n (by omega)
    · rcases List.mem_append.1 h with h | h
      · exact ih (n / base) (Nat.div_lt_self (by omega) hone) h
      · rw [List.mem_singleton.1 h]
        exact hdigit _ (Nat.lt_of_lt_of_le (Nat.mod_lt _ (by omega)) hmax)

/-- A number of some digits is less than the power of the base. -/
theorem digits?_lt {base : Nat} {cs : List Char} {n : Nat} (h : digits? base cs = some n) :
    n < base ^ cs.length := by
  have hfrom : ∀ (cs : List Char) (m n : Nat), cs.foldlM (append? base) m = some n →
      n < (m + 1) * base ^ cs.length := by
    intro cs
    induction cs with
    | nil =>
      intro m n h
      cases h
      simp
    | cons c rest ih =>
      intro m n h
      rw [List.foldlM_cons] at h
      obtain ⟨m', hm', h⟩ := Option.bind_eq_some_iff.1 h
      calc n < (m' + 1) * base ^ rest.length := ih _ _ h
        _ ≤ (m + 1) * base * base ^ rest.length := Nat.mul_le_mul_right _ (append?_lt hm')
        _ = (m + 1) * base ^ (c :: rest).length := by
            rw [List.length_cons, Nat.pow_succ', Nat.mul_assoc]
  have hlt := hfrom cs 0 n h
  rwa [Nat.zero_add, Nat.one_mul] at hlt

/-! ### Addresses of four bytes -/

/-- The part of an address that was written for a byte is read as the byte. -/
theorem part?_toDigits {b : Nat} (h : b < 256) : part? (Nat.toDigits 10 b) = some b := by
  have hall : ∀ b < 256, part? (Nat.toDigits 10 b) = some b := by decide +kernel
  exact hall b h

/-- The byte of an address at a place, counted from the last one. -/
def byteAt (address i : Nat) : Nat := (address >>> (8 * i)) % 256

/-- A byte of an address is less than 256. -/
theorem byteAt_lt (address i : Nat) : byteAt address i < 256 := Nat.mod_lt _ (by decide)

/-- The parts of an address, in order. -/
def parts (address : Nat) : List (List Char) :=
  [3, 2, 1, 0].map fun i => Nat.toDigits 10 (byteAt address i)

/-- The parts of an address are written with dots between them. -/
theorem write_eq (address : Nat) : write address = List.intercalate ['.'] (parts address) := by
  simp [write, parts, byteAt, List.intercalate_cons_cons]

/-- The parts of an address are written in digits. -/
theorem mem_hexDigits_of_mem_parts {address : Nat} {part : List Char} (h : part ∈ parts address)
    {c : Char} (hc : c ∈ part) : c ∈ hexDigits := by
  obtain ⟨i, _, rfl⟩ := List.mem_map.1 h
  exact mem_hexDigits_of_mem_toDigits (by decide) (by decide) hc

/-- An address that was written is read as four bytes. -/
theorem read?_write (address : Nat) :
    read? (write address) =
      some (((byteAt address 3 * 256 + byteAt address 2) * 256 + byteAt address 1) * 256 +
        byteAt address 0) := by
  have hsplit : splitAll (· = '.') (write address) = parts address := by
    rw [write_eq]
    apply splitAll_intercalate
    · intro part hpart hdot
      exact absurd (mem_hexDigits_of_mem_parts hpart hdot) (by decide)
    · simp [parts]
  have hlast : (parts address).getLast? ≠ some [] := by
    simp [parts, Nat.toDigits_ne_nil]
  have hread : (parts address).mapM part? =
      some [byteAt address 3, byteAt address 2, byteAt address 1, byteAt address 0] := by
    simp [parts, part?_toDigits (byteAt_lt address _)]
  have h3 := byteAt_lt address 3
  have h2 := byteAt_lt address 2
  have h1 := byteAt_lt address 1
  have h0 := byteAt_lt address 0
  unfold read?
  dsimp only
  rw [hsplit, if_neg hlast, hread]
  simp only [Option.bind_eq_bind, Option.bind_some, combine?, List.reverse_cons, List.reverse_nil,
    List.nil_append, List.cons_append, List.length_cons, List.length_nil, List.any_cons,
    List.any_nil, List.foldl_cons, List.foldl_nil]
  rw [if_neg (by decide), if_neg (by simp; omega), if_neg (by simp; omega), Nat.shiftLeft_eq]
  simp only [Nat.zero_mul, Nat.zero_add]

/-- An address that was written is read as one with the same text. -/
theorem write_of_read?_write {address found : Nat} (h : read? (write address) = some found) :
    write found = write address := by
  have h3 := byteAt_lt address 3
  have h2 := byteAt_lt address 2
  have h1 := byteAt_lt address 1
  have h0 := byteAt_lt address 0
  rw [read?_write] at h
  obtain rfl := Option.some.inj h
  rw [write_eq, write_eq, parts, parts]
  congr 1
  apply List.map_congr_left
  intro i hi
  congr 1
  rw [byteAt, Nat.shiftRight_eq_div_pow]
  simp only [List.mem_cons, List.not_mem_nil, or_false] at hi
  rcases hi with rfl | rfl | rfl | rfl <;> omega

end Ipv4

/-! ### Addresses of eight pieces -/

namespace Ipv6

open Ipv4

/-- A piece is read as it was written. -/
theorem piece?_toDigits {p : Nat} (h : p < 65536) : piece? (Nat.toDigits 16 p) = some p := by
  have hlength : (Nat.toDigits 16 p).length ≤ 4 :=
    (Nat.length_toDigits_le_iff (by decide) (by decide)).2 h
  unfold piece?
  rw [if_neg, digits?_toDigits (by decide) (by decide)]
  rw [List.isEmpty_iff, not_or]
  exact ⟨Nat.toDigits_ne_nil, by omega⟩

/-- A character that is no hexadecimal digit stands in no piece. -/
theorem not_mem_toDigits {c : Char} (h : c ∉ hexDigits) (p : Nat) : c ∉ Nat.toDigits 16 p :=
  fun hmem => h (mem_hexDigits_of_mem_toDigits (by decide) (by decide) hmem)

/-- A run of pieces is read as it was written, wherever it stands. -/
theorem run?_toDigits {pieces : List Nat} (h : ∀ p ∈ pieces, p < 65536) (endsAddress : Bool) :
    run? endsAddress (pieces.map (Nat.toDigits 16)) = some pieces := by
  induction pieces with
  | nil => rfl
  | cons p rest ih =>
    have hp := piece?_toDigits (h p List.mem_cons_self)
    have hrest := ih fun q hq => h q (List.mem_cons_of_mem _ hq)
    cases rest with
    | nil =>
      have hdot : '.' ∉ Nat.toDigits 16 p := not_mem_toDigits (by decide) p
      simp [run?, hdot, hp]
    | cons q rest =>
      rw [List.map_cons] at hrest
      rw [List.map_cons, List.map_cons, run?, hp, hrest]
      · rfl
      · simp

/-- Pieces are read as they are written. -/
theorem pieces?_writePieces {pieces : List Nat} (h : ∀ p ∈ pieces, p < 65536)
    (endsAddress : Bool) : pieces? endsAddress (writePieces pieces) = some pieces := by
  cases pieces with
  | nil => rfl
  | cons p rest =>
    have hsplit : splitAll (· = ':') (writePieces (p :: rest)) =
        (p :: rest).map (Nat.toDigits 16) := by
      apply splitAll_intercalate
      · intro piece hpiece
        obtain ⟨q, _, rfl⟩ := List.mem_map.1 hpiece
        exact not_mem_toDigits (by decide) q
      · simp
    have hne : (writePieces (p :: rest)).isEmpty = false := by
      rw [List.isEmpty_eq_false_iff]
      intro hempty
      rw [hempty] at hsplit
      have hhead := congrArg List.head? hsplit
      simp only [splitAll, List.head?_cons, List.map_cons, Option.some.injEq] at hhead
      exact Nat.toDigits_ne_nil hhead.symm
    unfold pieces?
    rw [hne, hsplit]
    exact run?_toDigits h endsAddress

/-- A text without colons belongs to what is before the gap. -/
theorem cutAtGap_append {word : List Char} (h : ':' ∉ word) (rest : List Char) :
    cutAtGap (word ++ rest) =
      (cutAtGap rest).map fun (before, after) => (word ++ before, after) := by
  induction word with
  | nil => simp
  | cons c word ih =>
    rw [List.mem_cons, not_or] at h
    rw [List.cons_append, cutAtGap, ih h.2, Option.map_map]
    · rfl
    · rintro rest' rfl
      exact absurd rfl h.1

/-- A colon before another character is not the gap. -/
theorem cutAtGap_colon {c : Char} (h : c ≠ ':') (rest : List Char) :
    cutAtGap (':' :: c :: rest) =
      (cutAtGap (c :: rest)).map fun (before, after) => (':' :: before, after) := by
  rw [cutAtGap]
  rintro rest' - hrest
  exact absurd (List.cons.inj hrest).1 h

/-- The text of some pieces does not begin with a colon. -/
theorem exists_writePieces_eq_cons (p : Nat) (pieces : List Nat) :
    ∃ c rest, writePieces (p :: pieces) = c :: rest ∧ c ≠ ':' := by
  cases hdigits : Nat.toDigits 16 p with
  | nil => exact absurd hdigits Nat.toDigits_ne_nil
  | cons c word =>
    have hc : c ≠ ':' := by
      rintro rfl
      exact not_mem_toDigits (c := ':') (by decide) p (hdigits ▸ List.mem_cons_self)
    cases pieces with
    | nil => exact ⟨c, word, by simp [writePieces, hdigits], hc⟩
    | cons q pieces =>
      exact ⟨c, word ++ ':' :: writePieces (q :: pieces),
        by simp [writePieces, hdigits, List.intercalate_cons_cons], hc⟩

/-- There is no gap in pieces with colons between them. -/
theorem cutAtGap_writePieces (pieces : List Nat) (rest : List Char) :
    cutAtGap (writePieces pieces ++ rest) =
      (cutAtGap rest).map fun (before, after) => (writePieces pieces ++ before, after) := by
  have hword : ∀ p, ':' ∉ Nat.toDigits 16 p := not_mem_toDigits (by decide)
  induction pieces with
  | nil => simp [writePieces]
  | cons p pieces ih =>
    cases pieces with
    | nil => simpa [writePieces] using cutAtGap_append (hword p) rest
    | cons q pieces =>
      have hwrite : writePieces (p :: q :: pieces) =
          Nat.toDigits 16 p ++ ':' :: writePieces (q :: pieces) := by
        simp [writePieces, List.intercalate_cons_cons]
      obtain ⟨c, others, hnext, hc⟩ := exists_writePieces_eq_cons q pieces
      rw [hwrite, List.append_assoc, cutAtGap_append (hword p), List.cons_append, hnext,
        List.cons_append, cutAtGap_colon hc, ← List.cons_append, ← hnext, ih, Option.map_map,
        Option.map_map]
      simp [Function.comp_def]

/-- The gap is a run of zeros. -/
theorem longestZeroRun_spec (index : Nat) (pieces : List Nat) :
    ∃ before after, pieces =
        before ++ List.replicate (longestZeroRun index pieces).2 0 ++ after ∧
      (longestZeroRun index pieces).1 = index + before.length := by
  induction pieces generalizing index with
  | nil => exact ⟨[], [], rfl, rfl⟩
  | cons p rest ih =>
    rw [longestZeroRun]
    split
    · refine ⟨[], (p :: rest).dropWhile (· = 0), ?_, rfl⟩
      have hzeros : (p :: rest).takeWhile (· = 0) =
          List.replicate (zeroRun (p :: rest)) 0 := by
        apply List.eq_replicate_iff.2
        exact ⟨rfl, fun q hq => of_decide_eq_true (List.all_eq_true.1 List.all_takeWhile q hq)⟩
      rw [List.nil_append, ← hzeros, List.takeWhile_append_dropWhile]
    · obtain ⟨before, after, hrest, hindex⟩ := ih (index + 1)
      refine ⟨p :: before, after, ?_, ?_⟩
      · rw [List.cons_append, List.cons_append, ← hrest]
      · rw [hindex, List.length_cons]
        omega

/-- An address is read as it was written. -/
theorem read?_write {pieces : List Nat} (hcount : pieces.length = 8)
    (hsize : ∀ p ∈ pieces, p < 65536) : read? (write pieces) = some pieces := by
  obtain ⟨before, after, hpieces, hindex⟩ := longestZeroRun_spec 0 pieces
  generalize hgap : longestZeroRun 0 pieces = gap at hpieces hindex
  rw [Nat.zero_add] at hindex
  unfold write
  rw [hgap]
  dsimp only
  split
  · have hnone := cutAtGap_writePieces pieces []
    rw [List.append_nil] at hnone
    unfold read?
    rw [hnone]
    simp [cutAtGap, pieces?_writePieces hsize, hcount]
  · rename_i hlong
    have hbefore : pieces.take gap.1 = before := by
      rw [hpieces, hindex, List.append_assoc, List.take_left]
    have hafter : pieces.drop (gap.1 + gap.2) = after := by
      rw [hpieces, hindex]
      exact List.drop_left' (by simp)
    have hlength : before.length + gap.2 + after.length = 8 := by
      rw [← hcount, hpieces, List.length_append, List.length_append, List.length_replicate]
    have hcut := cutAtGap_writePieces before (':' :: ':' :: writePieces after)
    rw [cutAtGap, Option.map_some] at hcut
    dsimp only at hcut
    rw [List.append_nil] at hcut
    have hsizeBefore : ∀ p ∈ before, p < 65536 :=
      fun p hp => hsize p (by rw [hpieces]; simp [hp])
    have hsizeAfter : ∀ p ∈ after, p < 65536 :=
      fun p hp => hsize p (by rw [hpieces]; simp [hp])
    have hhead := pieces?_writePieces hsizeBefore false
    have htail := pieces?_writePieces hsizeAfter true
    have hzeros : 8 - before.length - after.length = gap.2 := by omega
    unfold read?
    rw [hbefore, hafter, hcut]
    simp only [hhead, htail, Option.bind_eq_bind, Option.bind_some]
    rw [if_pos (by omega), hzeros, ← hpieces]

/-! ### What addresses are read -/

/-- A piece that is read has 16 bits. -/
theorem piece?_lt {cs : List Char} {p : Nat} (h : piece? cs = some p) : p < 65536 := by
  unfold piece? at h
  split at h
  · cases h
  · rename_i hlength
    rw [not_or] at hlength
    calc p < 16 ^ cs.length := digits?_lt h
      _ ≤ 16 ^ 4 := Nat.pow_le_pow_right (by decide) (by omega)

/-- A byte that is read has 8 bits. -/
theorem byte?_lt {cs : List Char} {b : Nat} (h : byte? cs = some b) : b < 256 := by
  unfold byte? at h
  split at h
  · cases h
  · obtain ⟨n, _, hn⟩ := Option.bind_eq_some_iff.1 h
    split at hn
    · cases hn
      assumption
    · cases hn

/-- The pieces of an embedded address have 16 bits. -/
theorem embedded?_lt {cs : List Char} {pieces : List Nat} (h : embedded? cs = some pieces) :
    ∀ p ∈ pieces, p < 65536 := by
  obtain ⟨bytes, hbytes, h⟩ := Option.bind_eq_some_iff.1 h
  have hlt : ∀ b ∈ bytes, b < 256 := by
    intro b hb
    have hmem : some b ∈ bytes.map some := List.mem_map_of_mem hb
    rw [← mapM_eq_some_iff.1 hbytes] at hmem
    obtain ⟨label, _, hlabel⟩ := List.mem_map.1 hmem
    exact byte?_lt hlabel
  split at h
  · rename_i a b c d
    cases h
    have ha := hlt a (by simp)
    have hb := hlt b (by simp)
    have hc := hlt c (by simp)
    have hd := hlt d (by simp)
    intro p hp
    simp only [List.mem_cons, List.not_mem_nil, or_false] at hp
    omega
  · cases h

/-- The pieces of a run have 16 bits. -/
theorem run?_lt {endsAddress : Bool} {texts : List (List Char)} {pieces : List Nat}
    (h : run? endsAddress texts = some pieces) : ∀ p ∈ pieces, p < 65536 := by
  induction texts generalizing pieces with
  | nil =>
    cases h
    simp
  | cons first rest ih =>
    cases rest with
    | nil =>
      rw [run?] at h
      split at h
      · exact embedded?_lt h
      · obtain ⟨p, hp, rfl⟩ := Option.map_eq_some_iff.1 h
        simpa using piece?_lt hp
    | cons second rest =>
      rw [run?] at h
      · obtain ⟨p, hp, h⟩ := Option.bind_eq_some_iff.1 h
        obtain ⟨others, hothers, h⟩ := Option.bind_eq_some_iff.1 h
        cases h
        intro q hq
        rcases List.mem_cons.1 hq with rfl | hq
        · exact piece?_lt hp
        · exact ih hothers q hq
      · simp

/-- The pieces that are read have 16 bits. -/
theorem pieces?_lt {endsAddress : Bool} {cs : List Char} {pieces : List Nat}
    (h : pieces? endsAddress cs = some pieces) : ∀ p ∈ pieces, p < 65536 := by
  unfold pieces? at h
  split at h
  · cases h
    simp
  · exact run?_lt h

/-- An address has eight pieces of 16 bits. -/
theorem eight_of_read? {cs : List Char} {pieces : List Nat} (h : read? cs = some pieces) :
    pieces.length = 8 ∧ ∀ p ∈ pieces, p < 65536 := by
  unfold read? at h
  split at h
  · obtain ⟨found, hfound, h⟩ := Option.bind_eq_some_iff.1 h
    split at h
    · cases h
      rename_i hcount
      exact ⟨hcount, pieces?_lt hfound⟩
    · cases h
  · obtain ⟨head, hhead, h⟩ := Option.bind_eq_some_iff.1 h
    obtain ⟨tail, htail, h⟩ := Option.bind_eq_some_iff.1 h
    split at h
    · cases h
      refine ⟨?_, ?_⟩
      · rw [List.length_append, List.length_append, List.length_replicate]
        omega
      · intro p hp
        rcases List.mem_append.1 hp with hp | hp
        · rcases List.mem_append.1 hp with hp | hp
          · exact pieces?_lt hhead p hp
          · rw [List.eq_of_mem_replicate hp]
            decide
        · exact pieces?_lt htail p hp
    · cases h

/-! ### The characters of addresses -/

/-- The text of an address holds digits and colons. -/
theorem mem_write {pieces : List Nat} {c : Char} (h : c ∈ write pieces) :
    c ∈ hexDigits ∨ c = ':' := by
  have hrun : ∀ pieces, c ∈ writePieces pieces → c ∈ hexDigits ∨ c = ':' := by
    intro pieces hc
    rcases mem_intercalate hc with hcolon | ⟨piece, hpiece, hc⟩
    · exact .inr hcolon
    · obtain ⟨p, _, rfl⟩ := List.mem_map.1 hpiece
      exact .inl (mem_hexDigits_of_mem_toDigits (by decide) (by decide) hc)
  unfold write at h
  dsimp only at h
  split at h
  · exact hrun _ h
  · simp only [List.mem_append, List.mem_cons] at h
    rcases h with h | rfl | rfl | h
    · exact hrun _ h
    · exact .inr rfl
    · exact .inr rfl
    · exact hrun _ h

end Ipv6

end SilentAuth
