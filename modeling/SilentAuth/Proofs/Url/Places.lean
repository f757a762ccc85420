import Mathlib.Data.List.TakeWhile
import SilentAuth.Proofs.Url.Addresses
import SilentAuth.Proofs.Url.Names
import SilentAuth.Url

/-!
# The place that a URL names

What stands in a URL before its path says where a server is. In a URL of a special scheme it is read
in the same way whatever the path is, so a host to which one URL leads can stand in other URLs, too.

* `Url.LeadsHost`: texts that begin as hosts do.
* `Host.Readable`, `Url.IsPort`: the hosts and ports that are read; `Url.readable_of_parse`: what a
  URL holds that was read.
* `Url.isOk_parse_congr`: whether a URL can be read does not depend on what follows its host.
-/

namespace SilentAuth

namespace Url

/-! ### How hosts begin -/

/-- The characters that are strokes, or that are left out of URLs. -/
def notLeading : List Char := ['/', '\\', '\t', '\n', '\r']

/-- A text that begins as a host does. -/
def LeadsHost (cs : List Char) : Prop := ∃ c rest, cs = c :: rest ∧ c ∉ notLeading

/-- What follows its beginning does not matter for a host. -/
theorem LeadsHost.append {cs : List Char} (h : LeadsHost cs) (more : List Char) :
    LeadsHost (cs ++ more) := by
  obtain ⟨c, rest, rfl, hc⟩ := h
  exact ⟨c, rest ++ more, rfl, hc⟩

/-- A character that passes a test is none of those that fail it. -/
theorem not_mem_notLeading (test : Char → Bool)
    (hfail : notLeading.all (fun d => !test d) = true) {c : Char} (h : test c = true) :
    c ∉ notLeading := by
  intro hmem
  have hnot := List.all_eq_true.1 hfail c hmem
  simp [h] at hnot

/-- A host in lower case begins as a host. -/
theorem LeadsHost.map_toLower {cs : List Char} (h : LeadsHost cs) :
    LeadsHost (cs.map Char.toLower) := by
  obtain ⟨c, rest, rfl, hc⟩ := h
  have hlower := congr_toLower (fun d => decide (d ∈ notLeading)) (by decide) c
  exact ⟨c.toLower, rest.map Char.toLower, rfl, by simpa [hc] using hlower⟩

/-- A host name in ASCII begins as a host does, if it is not empty. -/
theorem leadsHost_of_allowed {name : List Char} (h : ∀ c ∈ name, Domain.IsAllowed c)
    (hne : name ≠ []) : LeadsHost name := by
  cases name with
  | nil => exact absurd rfl hne
  | cons c rest =>
    have hallowed : (!Domain.isForbidden c) = true := by
      rw [(h c List.mem_cons_self).2, Bool.not_false]
    exact ⟨c, rest, rfl, not_mem_notLeading (!Domain.isForbidden ·) (by decide) hallowed⟩

/-- A decimal number begins as a host does. -/
theorem leadsHost_toDigits (n : Nat) : LeadsHost (Nat.toDigits 10 n) := by
  cases hdigits : Nat.toDigits 10 n with
  | nil => exact absurd hdigits Nat.toDigits_ne_nil
  | cons c rest =>
    have hdigit : c.isDigit = true :=
      Nat.isDigit_of_mem_toDigits (b := 10) (n := n) (by decide) (Nat.le_refl 10)
        (hdigits ▸ List.mem_cons_self)
    exact ⟨c, rest, rfl, not_mem_notLeading Char.isDigit (by decide) hdigit⟩

/-! ### Hosts that were read -/

end Url

namespace Host

/-- What a host holds that was read in the URL of a special scheme. -/
inductive Readable : Host → Prop
  | domain {name : List Char} : name ≠ [] → (∀ c ∈ name, Domain.IsAllowed c) →
    Ipv4.isMeant name = false → Readable (.domain name)
  | ipv4 (address : Nat) : Readable (.ipv4 address)
  | ipv6 {pieces : List Nat} : pieces.length = 8 → (∀ p ∈ pieces, p < 65536) →
    Readable (.ipv6 pieces)

/-- A host that was read is one that can be read. -/
theorem readable_of_ofSpecial {cs : List Char} {host : Host} (h : ofSpecial cs = .ok host) :
    host.Readable := by
  unfold ofSpecial at h
  split at h
  · rename_i found hbracketed
    unfold bracketed? at hbracketed
    split at hbracketed
    · cases hbracketed
      split at h
      · split at h
        · rename_i pieces hpieces
          cases h
          exact .ipv6 (Ipv6.eight_of_read? hpieces).1 (Ipv6.eight_of_read? hpieces).2
        · cases h
      · cases h
    · cases hbracketed
  · split at h
    · cases h
    · rename_i name hname
      split at h
      · cases h
      · rename_i hne
        split at h
        · split at h
          · cases h
            exact .ipv4 _
          · cases h
        · rename_i hmeant
          cases h
          exact .domain (by simpa using hne) (fun c hc => Domain.allowed_of_toAscii? hname hc)
            (by simpa using hmeant)

/-- What the URL of a special scheme has as its host begins as a host. -/
theorem Readable.leadsHost {host : Host} (h : host.Readable) : Url.LeadsHost host.write := by
  cases h with
  | domain hne hallowed _ => exact Url.leadsHost_of_allowed hallowed hne
  | ipv4 address => exact (((Url.leadsHost_toDigits _).append _).append _).append _
  | ipv6 _ _ => exact ⟨'[', _, rfl, by decide⟩

end Host

namespace Url

/-- A port that can be read with a scheme. -/
def IsPort (scheme : List Char) (port : Option Nat) : Prop :=
  ∀ n ∈ port, n ≤ 65535 ∧ defaultPort? scheme ≠ some n

/-- A port that was read is one that is written. -/
theorem isPort_of_port? {scheme digits : List Char} {port : Option Nat}
    (h : port? scheme digits = .ok port) : IsPort scheme port := by
  rintro n rfl
  unfold port? at h
  split at h
  · cases h
  · dsimp only at h
    split at h
    · cases h
    · split at h
      · cases h
      · rename_i hsmall hother
        cases h
        simp only [Bool.or_eq_true, not_or, decide_eq_true_eq] at hother
        exact ⟨Nat.le_of_not_lt hsmall, hother.2⟩

/-! ### Reading the place -/

/-- The scheme of all authorities. -/
def httpsScheme : List Char := ['h', 't', 't', 'p', 's']

/-- Whether a character is a stroke in a URL of a special scheme. -/
def isStroke (c : Char) : Bool := c = '/' || c = '\\'

/-- A text is not cut exactly if it has neither stroke in it. -/
theorem uncut_iff {cs : List Char} :
    (∀ c ∈ cs, isStroke c = false) ↔ '/' ∉ cs ∧ '\\' ∉ cs := by
  constructor
  · intro h
    exact ⟨fun hmem => absurd (h _ hmem) (by decide), fun hmem => absurd (h _ hmem) (by decide)⟩
  · rintro ⟨hslash, hbackslash⟩ c hc
    have hne : c ≠ '/' := fun heq => hslash (heq ▸ hc)
    have hne' : c ≠ '\\' := fun heq => hbackslash (heq ▸ hc)
    simp [isStroke, hne, hne']

theorem isSpecial_https : isSpecial httpsScheme = true := by decide

/-- The strokes of this scheme are of both kinds. -/
theorem strokes_https (c : Char) :
    (decide (c = '/') || (decide (c = '\\') && isSpecial httpsScheme)) = isStroke c := by
  rw [isSpecial_https, Bool.and_true]
  rfl

/-- What follows the place says nothing about it, since with this scheme there has to be a host. -/
theorem read_https_congr (cs : List Char) (isFollowed isFollowed' : Bool) :
    Place.read httpsScheme isFollowed cs = Place.read httpsScheme isFollowed' cs := by
  unfold Place.read
  simp only [isSpecial_https, Bool.true_or]

/-- A hierarchy of this scheme is a place, after strokes, and the path behind it. -/
theorem readHierarchy_https (cs : List Char) (query fragment : Option (List Char)) :
    readHierarchy httpsScheme cs query fragment =
      (Place.read httpsScheme false (cutPath httpsScheme (cs.dropWhile isStroke)).1).map
        fun place => ⟨httpsScheme, place.username, place.password, some place.host, place.port,
          .segments (readPathAfterHost httpsScheme
            (cutPath httpsScheme (cs.dropWhile isStroke)).2).segments, query, fragment⟩ := by
  unfold readHierarchy
  rw [if_neg (by decide), if_pos (by decide), read_https_congr _ false]
  rfl

/-- A hierarchy has the scheme with which it is read. -/
theorem scheme_of_readHierarchy {scheme cs : List Char} {query fragment : Option (List Char)}
    {u : Url} (h : readHierarchy scheme cs query fragment = .ok u) : u.scheme = scheme := by
  unfold readHierarchy at h
  simp only [bind, Except.bind, pure, Except.pure] at h
  split at h
  · split at h
    · cases h
    · cases h
      rfl
  · split at h
    · split at h
      · cases h
      · cases h
        rfl
    · split at h
      · split at h
        · cases h
        · cases h
          rfl
      · cases h
        rfl
      · cases h
        rfl

/-- The place is what comes before the first stroke. -/
theorem cutPath_https_congr {cs cs' : List Char}
    (h : cs.takeWhile (!isStroke ·) = cs'.takeWhile (!isStroke ·)) :
    (cutPath httpsScheme cs).1 = (cutPath httpsScheme cs').1 := by
  unfold cutPath
  simp only [strokes_https, h]
  split <;> rfl

/-- The host of a place of this scheme was read as one of a special scheme, and its port as one. -/
theorem readable_of_read {isFollowed : Bool} {cs : List Char} {place : Place}
    (h : Place.read httpsScheme isFollowed cs = .ok place) :
    place.host.Readable ∧ IsPort httpsScheme place.port := by
  unfold Place.read at h
  simp only [isSpecial_https, if_true, bind, Except.bind, pure, Except.pure] at h
  split at h
  · cases h
  · split at h
    · cases h
    · rename_i host hhost
      split at h
      · cases h
      · rename_i port hport
        cases h
        exact ⟨Host.readable_of_ofSpecial hhost, isPort_of_port? hport⟩

/-- No character of a text is one that does not stand in it. -/
theorem bne_of_notMem {mark : Char} {cs : List Char} (h : mark ∉ cs) {c : Char} (hc : c ∈ cs) :
    (c != mark) = true := by
  rw [bne_iff_ne]
  rintro rfl
  exact h hc

/-- What is cut off before a character. -/
theorem cutAt_fst (mark : Char) (cs : List Char) :
    (cutAt mark cs).1 = cs.takeWhile (· != mark) := by
  unfold cutAt
  split
  · rfl
  · rename_i habsent
    symm
    apply List.takeWhile_eq_self_iff.2
    exact fun c hc => bne_of_notMem (by simpa using habsent) hc

/-- The text of a hierarchy, before a query and a fragment. -/
def hierarchy (cs : List Char) : List Char := (cs.takeWhile (· != '#')).takeWhile (· != '?')

/-- A URL with this scheme is a place, after strokes, and what follows it. -/
theorem parse_https {text : String} {rest : List Char}
    (h : cutScheme? (cleaned text) = some (httpsScheme, rest)) :
    parse text =
      (Place.read httpsScheme false
        (cutPath httpsScheme ((hierarchy rest).dropWhile isStroke)).1).map
          fun place => ⟨httpsScheme, place.username, place.password, some place.host, place.port,
            .segments (readPathAfterHost httpsScheme
              (cutPath httpsScheme ((hierarchy rest).dropWhile isStroke)).2).segments,
            (cutAt '?' (cutAt '#' rest).1).2.map (Percent.encode Percent.specialQuery),
            (cutAt '#' rest).2.map (Percent.encode Percent.fragment)⟩ := by
  have hcut : (cutAt '?' (cutAt '#' rest).1).1 = hierarchy rest := by
    rw [cutAt_fst, cutAt_fst, hierarchy]
  unfold parse
  rw [h]
  dsimp only
  rw [hcut, readHierarchy_https]
  rfl

/-- What a URL with this scheme holds that was read. -/
theorem readable_of_parse {text : String} {u : Url} (h : parse text = .ok u)
    (hscheme : u.scheme = httpsScheme) :
    (∀ host ∈ u.host, host.Readable) ∧ IsPort httpsScheme u.port ∧
      ∃ rest, u.path = .segments (readPathAfterHost httpsScheme rest).segments := by
  have hcut : ∃ rest, cutScheme? (cleaned text) = some (httpsScheme, rest) := by
    unfold parse at h
    split at h
    · cases h
    · rename_i scheme rest hcut
      obtain rfl : httpsScheme = scheme := hscheme.symm.trans (scheme_of_readHierarchy h)
      exact ⟨rest, hcut⟩
  obtain ⟨rest, hcut⟩ := hcut
  rw [parse_https hcut] at h
  cases hplace : Place.read httpsScheme false
      (cutPath httpsScheme ((hierarchy rest).dropWhile isStroke)).1 with
  | error e =>
    rw [hplace] at h
    cases h
  | ok place =>
    rw [hplace] at h
    cases h
    obtain ⟨hhost, hport⟩ := readable_of_read hplace
    exact ⟨fun host hmem => Option.mem_some.1 hmem ▸ hhost, hport, _, rfl⟩

/-- The host of a URL with this scheme begins as a host. -/
theorem leadsHost_of_parse {text : String} {u : Url} (h : parse text = .ok u)
    (hscheme : u.scheme = httpsScheme) {host : Host} (hhost : u.host = some host) :
    LeadsHost (writeHost host u.port) :=
  ((readable_of_parse h hscheme).1 host hhost).leadsHost.append _

/-! ### What follows a host -/

/-- The characters of a text that are not left out of URLs. -/
def kept (cs : List Char) : List Char := cs.filter fun c => c != '\t' && c != '\n' && c != '\r'

/-- A host is kept as one. -/
theorem LeadsHost.kept {cs : List Char} (h : LeadsHost cs) : LeadsHost (Url.kept cs) := by
  obtain ⟨c, rest, rfl, hc⟩ := h
  refine ⟨c, Url.kept rest, ?_, hc⟩
  simp only [notLeading, List.mem_cons, not_or] at hc
  simp [Url.kept, hc]

/-- Cleaning a text does not change how it begins. -/
theorem cleaned_https (host tail : String) : ∃ rest,
    cleaned ("https://" ++ host ++ "/" ++ tail) =
      httpsScheme ++ ':' :: '/' :: '/' :: (kept host.toList ++ '/' :: rest) := by
  let isOuter (c : Char) : Bool := c.toNat ≤ 0x20
  refine ⟨kept (tail.toList.reverse.dropWhile isOuter).reverse, ?_⟩
  have htext : ("https://" ++ host ++ "/" ++ tail).toList =
      'h' :: ("ttps://".toList ++ host.toList ++ '/' :: tail.toList) := by
    simp
  have hfront : ('h' :: ("ttps://".toList ++ host.toList ++ '/' :: tail.toList)).dropWhile isOuter =
      ("https://".toList ++ host.toList) ++ '/' :: tail.toList := by
    simp [isOuter]
  -- the stroke behind the host ends what is cut off
  have hback : ((("https://".toList ++ host.toList) ++ '/' :: tail.toList).reverse.dropWhile
      isOuter) = tail.toList.reverse.dropWhile isOuter ++
        '/' :: ("https://".toList ++ host.toList).reverse := by
    rw [List.reverse_append, List.reverse_cons, List.append_assoc, List.singleton_append,
      List.dropWhile_append]
    split
    · rename_i hempty
      rw [List.isEmpty_iff.1 hempty]
      simp [isOuter]
    · rfl
  unfold cleaned
  dsimp only
  rw [htext, hfront, hback]
  simp [kept, httpsScheme]

/-- The secure scheme is cut off in front of its colon. -/
theorem cutScheme_https (rest : List Char) :
    cutScheme? (httpsScheme ++ ':' :: rest) = some (httpsScheme, rest) := rfl

/-- A hierarchy that begins as a host does not begin with strokes. -/
theorem dropWhile_hierarchy {cs : List Char} (h : LeadsHost cs) :
    (hierarchy cs).dropWhile isStroke = hierarchy cs := by
  obtain ⟨c, rest, rfl, hc⟩ := h
  have hstroke : isStroke c = false := by
    simp only [notLeading, List.mem_cons, not_or] at hc
    simp [isStroke, hc]
  unfold hierarchy
  by_cases hfragment : c = '#'
  · simp [hfragment]
  · by_cases hquery : c = '?'
    · simp [hquery]
    · simp [hfragment, hquery, hstroke]

/-- The place ends before the path. -/
theorem takeWhile_hierarchy (cs rest : List Char) :
    (hierarchy (cs ++ '/' :: rest)).takeWhile (!isStroke ·) =
      (hierarchy cs).takeWhile (!isStroke ·) := by
  unfold hierarchy
  induction cs with
  | nil => simp [isStroke]
  | cons c cs ih =>
    by_cases hfragment : c = '#'
    · simp [hfragment]
    · by_cases hquery : c = '?'
      · simp [hquery]
      · by_cases hstroke : isStroke c = true
        · simp [hfragment, hquery, hstroke]
        · simpa [hfragment, hquery, hstroke] using ih

/-- Whether a URL can be read does not depend on what follows its host. -/
theorem isOk_parse_congr {host : String} (h : LeadsHost host.toList) (tail tail' : String) :
    (parse ("https://" ++ host ++ "/" ++ tail)).isOk =
      (parse ("https://" ++ host ++ "/" ++ tail')).isOk := by
  have hparse : ∀ tail, (parse ("https://" ++ host ++ "/" ++ tail)).isOk =
      (Place.read httpsScheme false (cutPath httpsScheme (hierarchy (kept host.toList))).1).isOk := by
    intro tail
    obtain ⟨rest, hcleaned⟩ := cleaned_https host tail
    have hcut := congrArg cutScheme? hcleaned
    rw [cutScheme_https] at hcut
    have hstrokes : (hierarchy ('/' :: '/' :: (kept host.toList ++ '/' :: rest))).dropWhile isStroke =
        hierarchy (kept host.toList ++ '/' :: rest) :=
      dropWhile_hierarchy (h.kept.append _)
    rw [parse_https hcut, hstrokes, cutPath_https_congr (takeWhile_hierarchy _ _)]
    cases Place.read httpsScheme false _ <;> rfl
  rw [hparse, hparse]

end Url

end SilentAuth
