import SilentAuth.Proofs.Url.Addresses
import SilentAuth.Proofs.Url.Paths

/-!
# Hosts and ports are read as they were written

A host that was read, and is written in lower case, is read as one with the same text. A place that is
written with such a host and a port is read as these, without a user.

* `Host.Readable.write_of_ofSpecial`: what is read when such a host was written.
* `Url.port?_toDigits`: ports are read as they were written.
* `Url.read_placeText`: so are places, as far as the host can be read.
-/

namespace SilentAuth

/-! ### Hosts -/

namespace Host

/-- The text of a host in lower case. -/
def lowerText (host : Host) : List Char := host.write.map Char.toLower

/-- What a name in lower case is read as, if it can be read as a host. -/
theorem ofSpecial_name {name : List Char} {found : Host}
    (hallowed : ∀ c ∈ name, Domain.IsAllowed c) (hupper : ∀ c ∈ name, c.isUpper = false)
    (h : ofSpecial name = .ok found) :
    found = .domain name ∨
      Ipv4.isMeant name = true ∧ ∃ address, Ipv4.read? name = some address ∧
        found = .ipv4 address := by
  have hforbidden : ∀ c, Domain.isForbidden c = true → c ∉ name := by
    intro c hc hmem
    rw [(hallowed c hmem).2] at hc
    cases hc
  have hbracketed : bracketed? name = none := by
    unfold bracketed?
    rw [if_neg]
    intro hhead
    exact hforbidden '[' (by decide) (List.mem_of_head? hhead)
  unfold ofSpecial at h
  rw [hbracketed] at h
  dsimp only at h
  rw [lossy_decode_ascii (fun c hc => (hallowed c hc).1) (hforbidden '%' (by decide))] at h
  split at h
  · cases h
  · rename_i ascii hascii
    obtain rfl := Domain.eq_of_toAscii? (fun c hc => (hallowed c hc).1) hupper hascii
    split at h
    · cases h
    · split at h
      · rename_i hmeant
        split at h
        · rename_i address haddress
          cases h
          exact .inr ⟨hmeant, address, haddress, rfl⟩
        · cases h
      · cases h
        exact .inl rfl

/-- A character that a name may hold may be written in lower case. -/
theorem isAllowed_toLower {c : Char} (h : Domain.IsAllowed c) : Domain.IsAllowed c.toLower := by
  have hsame := congr_toLower (fun c => decide (Domain.IsAllowed c)) (by decide) c
  simpa [h] using hsame

/-- A character that is no capital is its own small letter. -/
theorem toLower_of_not_isUpper {c : Char} (h : c.isUpper = false) : c.toLower = c := by
  have hall : ∀ c ∈ capitals, c.isUpper = true := List.all_iff_forall_prop.1 (by decide)
  rcases toLower_cases c with ⟨_, heq⟩ | hmem
  · exact heq
  · rw [hall c hmem] at h
    cases h

/-- A host that is written without capitals is written in lower case. -/
theorem lowerText_eq_write {host : Host} (h : ∀ c ∈ host.write, c.isUpper = false) :
    host.lowerText = host.write := by
  rw [lowerText, List.map_congr_left fun c hc => toLower_of_not_isUpper (h c hc), List.map_id']

/-- The digits of addresses and ports may stand in a host name in lower case. -/
theorem hexDigit_chars {c : Char} (h : c ∈ Ipv4.hexDigits) :
    Domain.IsAllowed c ∧ c.isUpper = false := by
  have hall : ∀ c ∈ Ipv4.hexDigits, Domain.IsAllowed c ∧ c.isUpper = false :=
    List.all_iff_forall_prop.1 (by decide)
  exact hall c h

/-- An address of four bytes is written in characters that a name may hold, without capitals. -/
theorem ipv4_chars {address : Nat} {c : Char} (h : c ∈ Ipv4.write address) :
    Domain.IsAllowed c ∧ c.isUpper = false := by
  rw [Ipv4.write_eq] at h
  rcases mem_intercalate h with rfl | ⟨part, hpart, hc⟩
  · decide
  · exact hexDigit_chars (Ipv4.mem_hexDigits_of_mem_parts hpart hc)

/-- An address of four bytes is written in lower case. -/
theorem lowerText_ipv4 (address : Nat) : lowerText (.ipv4 address) = Ipv4.write address :=
  lowerText_eq_write fun _ hc => (ipv4_chars hc).2

/-- An address of eight pieces is written in lower case, in brackets. -/
theorem lowerText_ipv6 (pieces : List Nat) :
    lowerText (.ipv6 pieces) = '[' :: (Ipv6.write pieces ++ [']']) := by
  apply lowerText_eq_write
  intro c hc
  rw [write, List.mem_append, List.mem_cons, List.mem_singleton] at hc
  rcases hc with (rfl | hc) | rfl
  · decide
  · rcases Ipv6.mem_write hc with hc | rfl
    · exact (hexDigit_chars hc).2
    · decide
  · decide

/-- An address between brackets is read as it was written. -/
theorem ofSpecial_ipv6 {pieces : List Nat} (hcount : pieces.length = 8)
    (hsize : ∀ p ∈ pieces, p < 65536) :
    ofSpecial ('[' :: (Ipv6.write pieces ++ [']'])) = .ok (.ipv6 pieces) := by
  have hlast : ('[' :: (Ipv6.write pieces ++ [']'])).getLast? = some ']' := by
    rw [← List.cons_append, List.getLast?_concat]
  have hinner : (('[' :: (Ipv6.write pieces ++ [']'])).drop 1).dropLast = Ipv6.write pieces := by
    rw [List.drop_one, List.tail_cons, List.dropLast_concat]
  unfold ofSpecial bracketed?
  rw [List.head?_cons, if_pos rfl, if_pos hlast, hinner, Ipv6.read?_write hcount hsize]

/-- A host that was read and written in lower case is read as one with the same text, if it can be
read. -/
theorem Readable.write_of_ofSpecial {host found : Host} (h : host.Readable)
    (hfound : ofSpecial host.lowerText = .ok found) : found.write = host.lowerText := by
  cases h with
  | @domain name _ hallowed hmeant =>
    have hlower : ∀ c ∈ name.map Char.toLower, Domain.IsAllowed c ∧ c.isUpper = false := by
      intro c hc
      obtain ⟨d, hd, rfl⟩ := List.mem_map.1 hc
      exact ⟨isAllowed_toLower (hallowed d hd), isUpper_toLower d⟩
    rcases ofSpecial_name (fun c hc => (hlower c hc).1) (fun c hc => (hlower c hc).2) hfound with
      rfl | ⟨hagain, _⟩
    · rfl
    · -- what is no address in some letters is none in lower case
      rw [Ipv4.isMeant_map_toLower, hmeant] at hagain
      cases hagain
  | ipv4 address =>
    rw [lowerText_ipv4] at hfound ⊢
    rcases ofSpecial_name (fun c hc => (ipv4_chars hc).1) (fun c hc => (ipv4_chars hc).2) hfound with
      rfl | ⟨_, again, hagain, rfl⟩
    · rfl
    · exact Ipv4.write_of_read?_write hagain
  | @ipv6 pieces hcount hsize =>
    rw [lowerText_ipv6] at hfound ⊢
    rw [ofSpecial_ipv6 hcount hsize] at hfound
    cases hfound
    rfl

end Host

namespace Url

/-! ### Ports -/

/-- A port is read as it was written. -/
theorem port?_toDigits {scheme : List Char} {port : Nat} (hsmall : port ≤ 65535)
    (hother : defaultPort? scheme ≠ some port) :
    port? scheme (Nat.toDigits 10 port) = .ok (some port) := by
  have hdigits : (Nat.toDigits 10 port).all Char.isDigit = true :=
    List.all_eq_true.2 fun c hc => Nat.isDigit_of_mem_toDigits (by decide) (Nat.le_refl 10) hc
  have hvalue : (Nat.toDigits 10 port).foldl (fun n c => n * 10 + (c.toNat - '0'.toNat)) 0 =
      port := by
    have hread : Nat.ofDigitChars 10 (Nat.toDigits 10 port) 0 = port := Nat.ofDigitChars_ten_toDigits
    simpa [Nat.ofDigitChars, Nat.mul_comm] using hread
  have hne : (Nat.toDigits 10 port).isEmpty = false := by
    simp [Nat.toDigits_ne_nil]
  unfold port?
  simp only [hdigits, hvalue, hne, Bool.not_true, Bool.false_eq_true, if_false, Bool.false_or,
    decide_eq_true_eq]
  rw [if_neg (by omega), if_neg hother]

/-- What stands behind a host for its port. -/
def portText (port : Option Nat) : List Char := port.elim [] fun n => ':' :: Nat.toDigits 10 n

/-! ### Places -/

/-- A text without brackets, and without colons unless it is between brackets, is not cut. -/
theorem cutPort_append {inBrackets : Bool} {cs : List Char}
    (h : ∀ c ∈ cs, c ≠ '[' ∧ c ≠ ']' ∧ (inBrackets = false → c ≠ ':')) (rest : List Char) :
    cutPort inBrackets (cs ++ rest) =
      (cs ++ (cutPort inBrackets rest).1, (cutPort inBrackets rest).2) := by
  induction cs with
  | nil => rfl
  | cons c cs ih =>
    obtain ⟨hopen, hclose, hcolon⟩ := h c List.mem_cons_self
    have hcut : (decide (c = ':') && !inBrackets) = false := by
      cases inBrackets with
      | true => simp
      | false => simpa using hcolon rfl
    rw [List.cons_append, cutPort, hcut, if_neg (by decide)]
    simp only [hopen, hclose, if_false]
    rw [ih fun d hd => h d (List.mem_cons_of_mem _ hd)]
    rfl

/-- A host is not cut. -/
theorem cutPort_lowerText {host : Host} (h : host.Readable) (rest : List Char) :
    cutPort false (host.lowerText ++ rest) =
      (host.lowerText ++ (cutPort false rest).1, (cutPort false rest).2) := by
  have hname : ∀ c, Domain.IsAllowed c → c ≠ '[' ∧ c ≠ ']' ∧ (false = false → c ≠ ':') := by
    intro c hc
    refine ⟨?_, ?_, fun _ => ?_⟩
    · rintro rfl
      exact absurd hc (by decide)
    · rintro rfl
      exact absurd hc (by decide)
    · rintro rfl
      exact absurd hc (by decide)
  cases h with
  | @domain name _ hallowed _ =>
    apply cutPort_append
    intro c hc
    obtain ⟨d, hd, rfl⟩ := List.mem_map.1 hc
    exact hname _ (Host.isAllowed_toLower (hallowed d hd))
  | ipv4 address =>
    rw [Host.lowerText_ipv4]
    exact cutPort_append (fun c hc => hname c (Host.ipv4_chars hc).1) rest
  | @ipv6 pieces _ _ =>
    have hinner : ∀ c ∈ Ipv6.write pieces, c ≠ '[' ∧ c ≠ ']' ∧ (true = false → c ≠ ':') := by
      intro c hc
      rcases Ipv6.mem_write hc with hc | rfl
      · obtain ⟨hopen, hclose, _⟩ := hname c (Host.hexDigit_chars hc).1
        exact ⟨hopen, hclose, by simp⟩
      · decide
    rw [Host.lowerText_ipv6, List.cons_append, List.append_assoc, List.singleton_append]
    simp [cutPort, cutPort_append hinner (']' :: rest)]

/-- The characters that end a place, or tell a user from a host. -/
def placeMarks : List Char := ['#', '/', '?', '@', '\\']

/-- A character of which a place is made. -/
def IsPlaceChar (c : Char) : Prop := 0x20 < c.toNat ∧ c ∉ placeMarks

instance (c : Char) : Decidable (IsPlaceChar c) := inferInstanceAs (Decidable (_ ∧ _))

/-- Whatever a name may hold, the text of a place may. -/
theorem isPlaceChar_of_isAllowed {c : Char} (h : Domain.IsAllowed c) : IsPlaceChar c := by
  have hmarks : ∀ d ∈ placeMarks, ¬ Domain.IsAllowed d := List.all_iff_forall_prop.1 (by decide)
  have hforbidden := h.2
  simp only [Domain.isForbidden, Bool.or_eq_false_iff, decide_eq_false_iff_not] at hforbidden
  exact ⟨Nat.lt_of_not_le hforbidden.1.1, fun hmem => hmarks c hmem h⟩

/-- The text of a host, in lower case, with a port. -/
def placeText (host : Host) (port : Option Nat) : List Char := host.lowerText ++ portText port

/-- The text of a host and a port in lower case is that of their place. -/
theorem map_toLower_writeHost (host : Host) (port : Option Nat) :
    (writeHost host port).map Char.toLower = placeText host port := by
  rw [writeHost, List.map_append, placeText, portText, Host.lowerText]
  cases port with
  | none => rfl
  | some n =>
    congr 1
    rw [Option.elim_some, List.map_cons]
    congr 1
    rw [List.map_congr_left, List.map_id']
    intro c hc
    have hdigit := Ipv4.mem_hexDigits_of_mem_toDigits (by decide) (by decide) hc
    exact Host.toLower_of_not_isUpper (Host.hexDigit_chars hdigit).2

/-- The text of a place is made of the characters that it may hold. -/
theorem isPlaceChar_of_mem_placeText {host : Host} (h : host.Readable) {port : Option Nat} {c : Char}
    (hc : c ∈ placeText host port) : IsPlaceChar c := by
  have hdigit : ∀ c ∈ Ipv4.hexDigits, IsPlaceChar c :=
    fun c hc => isPlaceChar_of_isAllowed (Host.hexDigit_chars hc).1
  rcases List.mem_append.1 hc with hc | hc
  · cases h with
    | @domain name _ hallowed _ =>
      obtain ⟨d, hd, rfl⟩ := List.mem_map.1 hc
      exact isPlaceChar_of_isAllowed (Host.isAllowed_toLower (hallowed d hd))
    | ipv4 address =>
      rw [Host.lowerText_ipv4] at hc
      exact isPlaceChar_of_isAllowed (Host.ipv4_chars hc).1
    | ipv6 _ _ =>
      rw [Host.lowerText_ipv6, List.mem_cons, List.mem_append, List.mem_singleton] at hc
      rcases hc with rfl | hc | rfl
      · decide
      · rcases Ipv6.mem_write hc with hc | rfl
        · exact hdigit c hc
        · decide
      · decide
  · cases port with
    | none => cases hc
    | some n =>
      rcases List.mem_cons.1 hc with rfl | hc
      · decide
      · exact hdigit c (Ipv4.mem_hexDigits_of_mem_toDigits (by decide) (by decide) hc)

/-- A place can be the host of a URL. -/
theorem leadsHost_placeText {host : Host} (h : host.Readable) (port : Option Nat) :
    LeadsHost (placeText host port) :=
  h.leadsHost.map_toLower.append _

/-- A place that is written with a host and a port is read as one with the port and without a user, if
the host can be read. -/
theorem read_placeText {host : Host} (h : host.Readable) {port : Option Nat}
    (hport : IsPort httpsScheme port) :
    Place.read httpsScheme false (placeText host port) =
      (Host.ofSpecial host.lowerText).map fun found => ⟨[], [], found, port⟩ := by
  have huser : cutUser (placeText host port) = (none, placeText host port) := by
    unfold cutUser
    rw [if_neg]
    rw [List.contains_iff_mem]
    intro hsign
    exact absurd (isPlaceChar_of_mem_placeText h hsign) (by decide)
  have hcut : cutPort false (placeText host port) =
      (host.lowerText, port.map (Nat.toDigits 10)) := by
    rw [placeText, cutPort_lowerText h]
    cases port with
    | none => simp [portText, cutPort]
    | some n => simp [portText, cutPort]
  have hread : port? httpsScheme ((port.map (Nat.toDigits 10)).getD []) = .ok port := by
    cases port with
    | none => rfl
    | some n => exact port?_toDigits (hport n rfl).1 (hport n rfl).2
  have hne : host.lowerText.isEmpty = false := by
    obtain ⟨c, rest, hcons, _⟩ := h.leadsHost.map_toLower
    rw [Host.lowerText, hcons]
    rfl
  unfold Place.read
  rw [huser]
  dsimp only
  rw [hcut, hread, isSpecial_https]
  simp only [hne, Bool.false_and, Bool.false_eq_true, if_false, if_true]
  cases Host.ofSpecial host.lowerText with
  | error e => rfl
  | ok found => rfl

end Url

end SilentAuth
