import SilentAuth.Proofs.Url.Hosts

/-!
# URLs that are written in normal form

A URL is written with the host, in lower case, and the port of a URL that was read, and with segments
in normal form. If it can be read, then what is read has this text and these segments, and no user,
query or fragment.

* `Url.parse_openText`: a URL that is written as a place and something behind it.
* `Url.parse_written_eq_ok`: what is read of a place and a path.
-/

namespace SilentAuth

namespace Url

/-! ### Nothing is left out, and nothing is cut off -/

/-- A text that neither begins nor ends with blanks or controls loses only what is left out of
URLs. -/
theorem cleaned_eq_kept {cs : List Char} (hfirst : ∀ c ∈ cs.head?, 0x20 < c.toNat)
    (hlast : ∀ c ∈ cs.getLast?, 0x20 < c.toNat) : cleaned (String.ofList cs) = kept cs := by
  have houter : ∀ cs : List Char, (∀ c ∈ cs.head?, 0x20 < c.toNat) →
      cs.dropWhile (fun c => decide (c.toNat ≤ 0x20)) = cs := by
    intro cs hcs
    cases cs with
    | nil => rfl
    | cons c rest =>
      have hc : 0x20 < c.toNat := hcs c rfl
      exact List.dropWhile_cons_of_neg (by simpa using hc)
  unfold cleaned
  dsimp only
  rw [String.toList_ofList, houter _ hfirst, houter _ (by rwa [List.head?_reverse]),
    List.reverse_reverse]
  rfl

/-- Nothing is left out of a text without tabs and line ends. -/
theorem kept_eq_self_iff {cs : List Char} :
    kept cs = cs ↔ ∀ mark ∈ ['\t', '\n', '\r'], mark ∉ cs := by
  have hmark : ∀ c : Char,
      (c != '\t' && c != '\n' && c != '\r') = true ↔ c ∉ ['\t', '\n', '\r'] := by
    intro c
    simp [and_assoc]
  rw [kept, List.filter_eq_self]
  simp only [hmark]
  exact ⟨fun h mark hmark hmem => h mark hmem hmark, fun h c hc hmark => h c hmark hc⟩

/-- So nothing is left out of a text without controls. -/
theorem kept_of_forall {cs : List Char} (h : ∀ c ∈ cs, 0x20 < c.toNat) : kept cs = cs := by
  have hcontrol : ∀ mark ∈ ['\t', '\n', '\r'], ¬ 0x20 < mark.toNat :=
    List.all_iff_forall_prop.1 (by decide)
  exact kept_eq_self_iff.2 fun mark hmark hmem => hcontrol mark hmark (h mark hmem)

/-- Of two texts in a row is kept what is kept of each. -/
theorem kept_append (front back : List Char) : kept (front ++ back) = kept front ++ kept back :=
  List.filter_append _ _

/-- A text is not cut at a mark that does not stand in it. -/
theorem cutAt_of_notMem {mark : Char} {cs : List Char} (h : mark ∉ cs) :
    cutAt mark cs = (cs, none) := by
  unfold cutAt
  rw [if_neg]
  simpa using h

/-- A text is not cut before its first mark. -/
theorem cutAt_append {mark : Char} {front : List Char} (h : mark ∉ front) (back : List Char) :
    cutAt mark (front ++ back) = (front ++ (cutAt mark back).1, (cutAt mark back).2) := by
  have hfront : ∀ c ∈ front, (c != mark) = true := fun c hc => bne_of_notMem h hc
  unfold cutAt
  by_cases hback : mark ∈ back
  · rw [if_pos (by simp [hback]), if_pos (by simpa using hback),
      List.takeWhile_append_of_pos hfront, List.dropWhile_append_of_pos hfront]
  · rw [if_neg (by simp [h, hback]), if_neg (by simpa using hback)]

/-- A hierarchy does not end before its first mark. -/
theorem hierarchy_append {front : List Char} (hfragment : '#' ∉ front) (hquery : '?' ∉ front)
    (back : List Char) : hierarchy (front ++ back) = front ++ hierarchy back := by
  unfold hierarchy
  rw [← cutAt_fst, ← cutAt_fst, ← cutAt_fst, ← cutAt_fst, cutAt_append hfragment,
    cutAt_append hquery]

/-- The digits of a port are characters of the text. -/
theorem mem_cutPort {inBrackets : Bool} {cs digits : List Char}
    (h : (cutPort inBrackets cs).2 = some digits) {c : Char} (hc : c ∈ digits) : c ∈ cs := by
  induction cs generalizing inBrackets with
  | nil => cases h
  | cons d rest ih =>
    rw [cutPort] at h
    split at h
    · cases h
      exact List.mem_cons_of_mem _ hc
    · exact List.mem_cons_of_mem _ (ih h)

/-- A place ends before the path. -/
theorem cutPath_placed {place : List Char} (h : ∀ c ∈ place, IsPlaceChar c)
    (rest : List Char) :
    cutPath httpsScheme (place ++ '/' :: rest) = (place, '/' :: rest) := by
  have hnot : ∀ mark ∈ placeMarks, mark ∉ place := fun mark hmark hmem => (h mark hmem).2 hmark
  have hstroke : ∀ c ∈ place, (!isStroke c) = true := by
    simpa using uncut_iff.2 ⟨hnot '/' (by decide), hnot '\\' (by decide)⟩
  have hplace : (place ++ '/' :: rest).takeWhile (!isStroke ·) = place := by
    rw [List.takeWhile_append_of_pos hstroke, List.takeWhile_cons_of_neg (by decide),
      List.append_nil]
  have hpath : (place ++ '/' :: rest).dropWhile (!isStroke ·) = '/' :: rest := by
    rw [List.dropWhile_append_of_pos hstroke, List.dropWhile_cons_of_neg (by decide)]
  have huser : cutUser place = (none, place) := by
    unfold cutUser
    rw [if_neg]
    simpa using hnot '@' (by decide)
  unfold cutPath
  simp only [strokes_https, hplace, hpath, huser]
  split
  · rename_i digits hdigits
    have hextra : digits.dropWhile (· != '\\') = [] := by
      rw [List.dropWhile_eq_nil_iff]
      exact fun c hc => bne_of_notMem (hnot '\\' (by decide)) (mem_cutPort hdigits hc)
    rw [hextra, List.length_nil, Nat.sub_zero, List.take_length, List.nil_append]
  · rfl

/-! ### What follows a place -/

/-- The text of a URL with a place and something behind it. -/
def openText (place tail : List Char) : List Char :=
  httpsScheme ++ ':' :: '/' :: '/' :: (place ++ '/' :: tail)

/-- The URL of a place with something behind it, which says a path, a query and a fragment. -/
def ofTail (place : Place) (tail : List Char) : Url where
  scheme := httpsScheme
  username := place.username
  password := place.password
  host := some place.host
  port := place.port
  path := .segments (readPath httpsScheme (hierarchy tail)).segments
  query := (cutAt '?' (cutAt '#' tail).1).2.map (Percent.encode Percent.specialQuery)
  fragment := (cutAt '#' tail).2.map (Percent.encode Percent.fragment)

/-- A URL that is written as a place and something behind it is read as these. -/
theorem parse_openText {place : List Char} (hlead : LeadsHost place)
    (hplace : ∀ c ∈ place, IsPlaceChar c) {tail : List Char}
    (hlast : ∀ c ∈ tail.getLast?, 0x20 < c.toNat) :
    parse (String.ofList (openText place tail)) =
      (Place.read httpsScheme false place).map (ofTail · (kept tail)) := by
  -- nothing before the tail is left out, or begins a query or a fragment
  generalize hfront : '/' :: '/' :: place ++ ['/'] = front
  have hchars : ∀ c ∈ front, 0x20 < c.toNat ∧ c ≠ '#' ∧ c ≠ '?' := by
    intro c hc
    rw [← hfront, List.mem_append, List.mem_cons, List.mem_cons, List.mem_singleton] at hc
    rcases hc with (rfl | rfl | hc) | rfl
    · decide
    · decide
    · obtain ⟨hlow, hmarks⟩ := hplace c hc
      exact ⟨hlow, fun heq => hmarks (heq ▸ by decide), fun heq => hmarks (heq ▸ by decide)⟩
    · decide
  have hfragment : '#' ∉ front := fun hmem => (hchars '#' hmem).2.1 rfl
  have hquery : '?' ∉ front := fun hmem => (hchars '?' hmem).2.2 rfl
  have htext : ∀ tail, openText place tail = (httpsScheme ++ ':' :: front) ++ tail := by
    intro tail
    simp [openText, ← hfront]
  have hscheme : ∀ c ∈ httpsScheme ++ ':' :: front, 0x20 < c.toNat := by
    have hhttps : ∀ c ∈ httpsScheme ++ [':'], 0x20 < c.toNat :=
      List.all_iff_forall_prop.1 (by decide)
    intro c hc
    rw [List.append_cons, List.mem_append] at hc
    exact hc.elim (hhttps c) fun hc => (hchars c hc).1
  have hcleaned : cleaned (String.ofList (openText place tail)) = openText place (kept tail) := by
    rw [cleaned_eq_kept, htext, htext, kept_append, kept_of_forall hscheme]
    · intro c hc
      rw [← Option.mem_some.1 hc]
      decide
    · intro c hc
      rw [htext, List.getLast?_append] at hc
      cases htail : tail.getLast? with
      | none =>
        rw [htail] at hc
        exact hscheme c (List.mem_of_getLast? hc)
      | some last =>
        rw [htail] at hc
        exact hlast c (htail ▸ hc)
  have hcut : cutScheme? (cleaned (String.ofList (openText place tail))) =
      some (httpsScheme, front ++ kept tail) := by
    rw [hcleaned, htext, List.append_assoc, List.cons_append]
    exact cutScheme_https _
  have hstrokes : (front ++ hierarchy (kept tail)).dropWhile isStroke =
      place ++ '/' :: hierarchy (kept tail) := by
    obtain ⟨c, more, rfl, hc⟩ := hlead
    simp only [notLeading, List.mem_cons, not_or] at hc
    simp [← hfront, isStroke, hc]
  rw [parse_https hcut, hierarchy_append hfragment hquery, hstrokes, cutPath_placed hplace,
    cutAt_append hfragment]
  dsimp only
  rw [cutAt_append hquery, readPathAfterHost_stroke]
  rfl

/-- What is read of a host and a port that were read, with something behind them, has the text of the
host and the port, and no user. -/
theorem parse_openText_eq_ok {host : Host} (h : host.Readable) {port : Option Nat}
    (hport : IsPort httpsScheme port) {tail : List Char}
    (hlast : ∀ c ∈ tail.getLast?, 0x20 < c.toNat) {u : Url}
    (hu : parse (String.ofList (openText (placeText host port) tail)) = .ok u) :
    ∃ found, writeHost found port = placeText host port ∧
      u = ofTail ⟨[], [], found, port⟩ (kept tail) := by
  rw [parse_openText (leadsHost_placeText h port) (fun c hc => isPlaceChar_of_mem_placeText h hc)
    hlast, read_placeText h hport] at hu
  cases hfound : Host.ofSpecial host.lowerText with
  | error e =>
    rw [hfound] at hu
    cases hu
  | ok found =>
    rw [hfound] at hu
    cases hu
    refine ⟨found, ?_, rfl⟩
    rw [writeHost, h.write_of_ofSpecial hfound]
    rfl

/-! ### Paths -/

/-- The characters of a path in normal form. -/
theorem mem_write_segments {list : List (List Char)} (h : ∀ s ∈ list, IsSegment s) {c : Char}
    (hc : c ∈ UrlPath.write (.segments list)) : 0x20 < c.toNat ∧ c ≠ '#' ∧ c ≠ '?' := by
  obtain ⟨s, hs, hc⟩ := List.mem_flatMap.1 hc
  rcases List.mem_cons.1 hc with rfl | hc
  · decide
  · have hplain := (h s hs).plain c hc
    have hencoded : ∀ d ∈ [' ', '#', '?'], Percent.path.encodes d = true :=
      List.all_iff_forall_prop.1 (by decide)
    have hne : ∀ d ∈ [' ', '#', '?'], c ≠ d := by
      rintro d hd rfl
      rw [hencoded c hd] at hplain
      cases hplain
    refine ⟨?_, hne '#' (by decide), hne '?' (by decide)⟩
    have hspace : c.toNat ≠ 0x20 := fun heq =>
      hne ' ' (by decide) (Char.toNat_inj.1 heq)
    have hlow : ¬ c.toNat < 0x20 := by
      intro hlow
      simp [Percent.CharSet.encodes, hlow] at hplain
    omega

/-- A path in normal form is read behind a place as it is, without a query or a fragment. -/
theorem ofTail_write (place : Place) {s : List Char} {rest : List (List Char)}
    (h : ∀ segment ∈ s :: rest, IsSegment segment) :
    ofTail place (kept (s ++ rest.flatMap ('/' :: ·))) =
      ⟨httpsScheme, place.username, place.password, some place.host, place.port,
        .segments (s :: rest), none, none⟩ := by
  have hchars : ∀ c ∈ s ++ rest.flatMap ('/' :: ·), 0x20 < c.toNat ∧ c ≠ '#' ∧ c ≠ '?' :=
    fun c hc => mem_write_segments h (List.mem_cons_of_mem '/' hc)
  have hfragment : '#' ∉ s ++ rest.flatMap ('/' :: ·) := fun hmem => (hchars '#' hmem).2.1 rfl
  have hquery : '?' ∉ s ++ rest.flatMap ('/' :: ·) := fun hmem => (hchars '?' hmem).2.2 rfl
  have hpath := readPathAfterHost_write (List.cons_ne_nil s rest) h
  rw [UrlPath.write, List.flatMap_cons, List.cons_append, readPathAfterHost_stroke] at hpath
  rw [kept_of_forall fun c hc => (hchars c hc).1, ofTail, hierarchy, ← cutAt_fst, ← cutAt_fst,
    cutAt_of_notMem hfragment, cutAt_of_notMem hquery, hpath]
  rfl

/-- The text of a URL with a place and a path. -/
def placedText (place : List Char) (list : List (List Char)) : List Char :=
  httpsScheme ++ ':' :: '/' :: '/' :: (place ++ UrlPath.write (.segments list))

/-- What is read has the host and the port, and the text that was written. -/
theorem parse_written_eq_ok {host : Host} (h : host.Readable) {port : Option Nat}
    (hport : IsPort httpsScheme port) {list : List (List Char)} (hne : list ≠ [])
    (hlist : ∀ s ∈ list, IsSegment s) {u : Url}
    (hu : parse (String.ofList (placedText (placeText host port) list)) = .ok u) :
    (∃ found, u = ⟨httpsScheme, [], [], some found, port, .segments list, none, none⟩ ∧
      writeHost found port = placeText host port) ∧
      u.write = placedText (placeText host port) list := by
  obtain ⟨s, rest, rfl⟩ := List.exists_cons_of_ne_nil hne
  have hlast : ∀ c ∈ (s ++ rest.flatMap ('/' :: ·)).getLast?, 0x20 < c.toNat := fun c hc =>
    (mem_write_segments hlist (List.mem_cons_of_mem '/' (List.mem_of_getLast? hc))).1
  obtain ⟨found, htext, rfl⟩ := parse_openText_eq_ok h hport hlast hu
  rw [ofTail_write _ hlist]
  refine ⟨⟨found, rfl, htext⟩, ?_⟩
  simp [write, writeHierarchy, writeUser, htext, placedText]

end Url

end SilentAuth
