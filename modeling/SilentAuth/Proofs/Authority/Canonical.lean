import SilentAuth.Proofs.Silent.Tenants
import SilentAuth.Proofs.Url.Written

/-!
# Canonical authorities

The canonical URL of an authority is built as a text from the parts that were read, and read again.
It is what its text says, so the text names the same authority again; and its URLs lead to the host
of the authority, with nothing else that a URL can hold before or behind the path.

* `Url.PlainOn`: a URL that names nothing but a place and a path.
* `Authority.parse_canonical`: the canonical URL of an authority that a text names.
-/

namespace SilentAuth

/-- A URL that names nothing but the path on a host, which may have a port. -/
structure Url.PlainOn (host : String) (u : Url) : Prop where
  scheme : u.scheme = httpsScheme
  host : ∃ found, u.host = some found ∧ String.ofList (writeHost found u.port) = host
  username : u.username = []
  password : u.password = []
  query : u.query = none
  fragment : u.fragment = none

/-- A URL below one that names nothing but a place and a path names nothing else either. -/
theorem Url.PlainOn.below {host : String} {u : Url} (h : u.PlainOn host) (names : List String) :
    (u.below names).PlainOn host :=
  ⟨h.scheme, h.host, h.username, h.password, rfl, rfl⟩

namespace Authority

/-- The segments in the path of an authority, which ends with a stroke. -/
def pathSegments (kind : AuthorityKind) (tenant : String) (policy : Option String) :
    List (List Char) :=
  (pathNames kind tenant policy).map String.toList ++ [[]]

/-- The text of an authority is that of its host and its path. -/
theorem baseText_eq_ok {kind : AuthorityKind} {host tenant : String} {policy : Option String}
    {base : String} (h : baseText kind host tenant policy = .ok base) :
    base = String.ofList (Url.placedText host.toList (pathSegments kind tenant policy)) := by
  apply String.ext
  rw [String.toList_ofList, Url.placedText, Url.UrlPath.write]
  cases kind with
  | aad =>
    obtain rfl : "https://" ++ host ++ "/" ++ tenant ++ "/" = base := Except.ok.inj h
    simp [pathSegments, pathNames, Url.httpsScheme]
  | adfs =>
    obtain rfl : "https://" ++ host ++ "/" ++ adfsSegment ++ "/" = base := Except.ok.inj h
    simp [pathSegments, pathNames, Url.httpsScheme]
  | b2c =>
    cases policy with
    | none => cases h
    | some name =>
      obtain rfl : "https://" ++ host ++ "/" ++ b2cSegment ++ "/" ++ tenant ++ "/" ++ name ++ "/" =
        base := Except.ok.inj h
      simp [pathSegments, pathNames, Url.httpsScheme]

/-- The path of an authority is in normal form, if its names are. -/
theorem isSegment_of_mem_pathSegments {kind : AuthorityKind} {tenant : String}
    {policy : Option String}
    (h : ∀ name ∈ pathNames kind tenant policy, Url.IsSegment name.toList) :
    ∀ s ∈ pathSegments kind tenant policy, Url.IsSegment s := by
  intro s hs
  rcases List.mem_append.1 hs with hs | hs
  · obtain ⟨name, hname, rfl⟩ := List.mem_map.1 hs
    exact h name hname
  · rw [List.mem_singleton.1 hs]
    exact Url.isSegment_nil

/-- The name of a federation service is a segment of a path in normal form. -/
theorem isSegment_adfs : Url.IsSegment adfsSegment.toList :=
  ⟨List.all_iff_forall_prop.1 (by decide), List.all_iff_forall_prop.1 (by decide), by decide⟩

/-- So is the name before the tenant and policy of a service for consumers. -/
theorem isSegment_b2c : Url.IsSegment b2cSegment.toList :=
  ⟨List.all_iff_forall_prop.1 (by decide), List.all_iff_forall_prop.1 (by decide), by decide⟩

/-- An authority that a text names has the names of a path in normal form, which name it again, and the
host and port of a URL that was read, in lower case. -/
theorem exists_parts_of_parse {text : String} {a : Authority} (h : parse text = .ok a) :
    ∃ host port kind tenant policy, Host.Readable host ∧ Url.IsPort Url.httpsScheme port ∧
      a.host.toList = Url.placeText host port ∧ foldCase a.host = a.host ∧
      ofParts kind a.host tenant policy = .ok a ∧
      ofSegments a.host (pathNames kind tenant policy) = .ok a ∧
      ∀ name ∈ pathNames kind tenant policy, name ≠ "" ∧ Url.IsSegment name.toList := by
  obtain ⟨url, host, hurl, hscheme, hhost, hsegments⟩ := parse_eq_ok h
  obtain ⟨kind, tenant, policy, hparts, hagain, hnames⟩ := ofSegments_eq_ok hsegments
  obtain ⟨hreadable, hport, rest, hpath⟩ := Url.readable_of_parse hurl hscheme
  have hhostText := (ofParts_eq_ok hparts).2.1
  refine ⟨host, url.port, kind, tenant, policy, hreadable host hhost, hport, ?_,
    (Named.ofText h).foldCase_host, ?_, ?_, ?_⟩
  · rw [hhostText, toList_foldCase, String.toList_ofList, Url.map_toLower_writeHost]
  · rw [hhostText, hparts]
  · rw [hhostText, hagain]
  · intro name hname
    rcases hnames name hname with hmem | rfl | rfl
    · obtain ⟨s, hs, rfl⟩ := List.mem_map.1 hmem
      obtain ⟨hs, hne⟩ := List.mem_filter.1 hs
      rw [Url.segments, hpath] at hs
      rw [String.toList_ofList]
      refine ⟨?_, Url.isSegment_of_mem_readPathAfterHost s hs⟩
      intro hempty
      have hlist := congrArg String.toList hempty
      rw [String.toList_ofList, String.toList_empty] at hlist
      simp [hlist] at hne
    · exact ⟨by decide, isSegment_adfs⟩
    · exact ⟨by decide, isSegment_b2c⟩

/-- A URL that names nothing but the path on a host names the authority of the host and the path. -/
theorem ofUrl_of_plainOn {u : Url} {host : String} (h : u.PlainOn host) :
    ofUrl u =
      ofSegments (foldCase host) ((u.segments.filter (!·.isEmpty)).map String.ofList) := by
  obtain ⟨found, hfound, hhost⟩ := h.host
  have hscheme : u.scheme = "https".toList := h.scheme
  unfold ofUrl
  rw [if_neg (not_not.2 hscheme), h.query, h.fragment, hfound]
  dsimp only
  rw [hhost]
  rfl

/-- The names of a path are what its segments say, the empty one at the end left out. -/
theorem names_of_pathSegments {kind : AuthorityKind} {tenant : String} {policy : Option String}
    (h : ∀ name ∈ pathNames kind tenant policy, name ≠ "") :
    ((pathSegments kind tenant policy).filter (!·.isEmpty)).map String.ofList =
      pathNames kind tenant policy := by
  have hkept : ((pathNames kind tenant policy).map String.toList).filter (!·.isEmpty) =
      (pathNames kind tenant policy).map String.toList := by
    rw [List.filter_eq_self]
    intro s hs
    obtain ⟨name, hname, rfl⟩ := List.mem_map.1 hs
    simpa using h name hname
  rw [pathSegments, List.filter_append, hkept]
  simp [Function.comp_def]

/-- **The canonical URL names the authority.** The text of an authority that a text names is read as
the same authority. Its URLs lead to its host, with its port, over a secure connection, and hold no
user, no query and no fragment. -/
theorem parse_canonical {text : String} {a : Authority} (h : parse text = .ok a) :
    parse a.text = .ok a ∧ a.canonical.PlainOn a.host ∧ a.tokenEndpoint.PlainOn a.host ∧
      a.authorizeEndpoint.PlainOn a.host := by
  obtain ⟨host, port, kind, tenant, policy, hreadable, hport, hplace, hlower, hparts, hagain,
    hnames⟩ := exists_parts_of_parse h
  obtain ⟨base, htext, hbase, htoken, hauthorize⟩ := urls_of_ofParts hparts
  -- the canonical URL was read from this text, so it is enough that it is written as this text
  rw [baseText_eq_ok htext, hplace] at hbase
  obtain ⟨⟨found, hcanonical, hhost⟩, hwrite⟩ :=
    Url.parse_written_eq_ok hreadable hport (by simp [pathSegments])
      (isSegment_of_mem_pathSegments fun name hname => (hnames name hname).2) hbase
  have hplain : a.canonical.PlainOn a.host := by
    rw [hcanonical]
    refine ⟨rfl, ⟨found, rfl, ?_⟩, rfl, rfl, rfl, rfl⟩
    rw [hhost, ← hplace, String.ofList_toList]
  refine ⟨?_, hplain, htoken ▸ hplain.below _, hauthorize ▸ hplain.below _⟩
  have hsegments : a.canonical.segments = pathSegments kind tenant policy := by
    rw [hcanonical]
    rfl
  unfold parse
  rw [Authority.text, Url.text, hwrite, hbase]
  dsimp only
  rw [ofUrl_of_plainOn hplain, hlower, hsegments,
    names_of_pathSegments fun name hname => (hnames name hname).1, hagain]

namespace Sample

/-- A service for consumers, whose URL is written in a roundabout way. -/
def text : String :=
  "HTTPS://me:pw@[0:0::FFFF:1.2.3.4]:08443//x/../TFP/./Contoso%2f/é SignIn/extra"

/-- The URLs of the service. -/
def url (names : List String) : Url where
  scheme := "https".toList
  username := []
  password := []
  host := some (.ipv6 [0, 0, 0, 0, 0, 0xFFFF, 0x102, 0x304])
  port := some 8443
  path := .segments ((["tfp", "Contoso%2f", "%C3%A9%20SignIn"] ++ names).map String.toList)
  query := none
  fragment := none

/-- The service. -/
def consumers : Authority where
  kind := .b2c
  host := "[::ffff:102:304]:8443"
  tenant := "Contoso%2f"
  policy := some "%C3%A9%20SignIn"
  canonical := url [""]
  tokenEndpoint := url ["oauth2", "v2.0", "token"]
  authorizeEndpoint := url ["oauth2", "v2.0", "authorize"]

end Sample

/-- The user, the dots and all that follows the policy are gone from the canonical URL, which names the
same service. -/
theorem parse_canonical_consumers :
    parse Sample.text = .ok Sample.consumers ∧
      Sample.consumers.text = "https://[::ffff:102:304]:8443/tfp/Contoso%2f/%C3%A9%20SignIn/" ∧
      parse Sample.consumers.text = .ok Sample.consumers ∧
      Sample.consumers.canonical.PlainOn "[::ffff:102:304]:8443" := by
  have hread : parse Sample.text = .ok Sample.consumers := by rfl
  obtain ⟨hagain, hplain, _⟩ := parse_canonical hread
  exact ⟨hread, by decide, hagain, hplain⟩

end Authority

end SilentAuth
