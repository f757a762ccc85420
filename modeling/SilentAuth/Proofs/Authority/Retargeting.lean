import SilentAuth.Proofs.Authority.Canonical
import SilentAuth.Proofs.Url.Folders

/-!
# Directories for other tenants

A directory is asked for tokens of other tenants, and any text may say which. The text is put into a
URL as it is, unless it is empty or has a stroke in it, and this URL is read. So the host stays, but
the tenant is where it belongs only if the reader takes nothing in the text for a part of the URL.

* `Authority.exists_parts_of_withTenant`: the parts of a directory for another tenant.
* `Authority.withTenant_endpoint_iff`: when the token endpoint is in the tenant's folder.
* `Authority.withTenant_up`: a tenant that leads out of its folder.
-/

namespace SilentAuth

namespace Authority

/-- The path of the token endpoint of a directory in these folders. -/
def tokenPath (folders : List (List Char)) : UrlPath :=
  .segments (folders ++ ["oauth2", "v2.0", "token"].map String.toList)

/-- Different folders have different token endpoints. -/
theorem tokenPath_inj {folders folders' : List (List Char)} :
    tokenPath folders = tokenPath folders' ↔ folders = folders' := by
  rw [tokenPath, tokenPath, UrlPath.segments.injEq, List.append_left_inj]

/-- The text of a directory is that of its host, with the tenant as a folder behind it. -/
theorem baseText_aad (host tenant : String) (policy : Option String) :
    baseText .aad host tenant policy =
      .ok (String.ofList (Url.openText host.toList (tenant.toList ++ ['/']))) := by
  refine congrArg Except.ok (String.ext ?_)
  rw [String.toList_ofList]
  show ("https://" ++ host ++ "/" ++ tenant ++ "/").toList = _
  simp [Url.openText, Url.httpsScheme]

/-- The token endpoint of a directory on a host that was read is on this host, in the folder that is
read of the tenant. -/
theorem tokenEndpoint_of_ofParts {host : Host} (hreadable : host.Readable) {port : Option Nat}
    (hport : Url.IsPort Url.httpsScheme port) {place tenant : String} {policy : Option String}
    (hplace : place.toList = Url.placeText host port) {a : Authority}
    (h : ofParts .aad place tenant policy = .ok a) :
    a.tokenEndpoint.PlainOn place ∧
      a.tokenEndpoint.path = tokenPath (Url.folder tenant.toList) := by
  obtain ⟨base, htext, hbase, htoken, _⟩ := urls_of_ofParts h
  obtain rfl := Except.ok.inj ((baseText_aad place tenant policy).symm.trans htext)
  rw [hplace] at hbase
  have hlast : ∀ c ∈ (tenant.toList ++ ['/']).getLast?, 0x20 < c.toNat := by
    simp
  obtain ⟨found, hfound, hcanonical⟩ := Url.parse_openText_eq_ok hreadable hport hlast hbase
  rw [htoken, hcanonical]
  refine ⟨⟨rfl, ⟨found, rfl, ?_⟩, rfl, rfl, rfl, rfl⟩, rfl⟩
  show String.ofList (Url.writeHost found port) = place
  rw [hfound, ← hplace, String.ofList_toList]

/-- The directory for another tenant is made of the host of the one that was asked, and of a tenant that
is not empty and has no stroke in it. -/
theorem exists_parts_of_withTenant {text tenant : String} {a b : Authority}
    (ha : parse text = .ok a) (hkind : a.kind = .aad) (hb : a.withTenant tenant = .ok b) :
    ∃ host port, Host.Readable host ∧ Url.IsPort Url.httpsScheme port ∧
      a.host.toList = Url.placeText host port ∧ ofParts .aad a.host b.tenant b.policy = .ok b ∧
      b.tenant ≠ "" ∧ '/' ∉ b.tenant.toList := by
  obtain ⟨host, port, kind, name, policy, hreadable, hport, hplace, _, hparts, _, hnames⟩ :=
    exists_parts_of_parse ha
  refine ⟨host, port, hreadable, hport, hplace, ?_⟩
  unfold withTenant at hb
  split at hb
  · -- the tenant is the one that the directory has, and that was read
    cases hb
    obtain ⟨hkind', _, rfl, rfl⟩ := ofParts_eq_ok hparts
    rw [hkind] at hkind'
    subst hkind'
    obtain ⟨hne, hsegment⟩ := hnames a.tenant (List.mem_singleton_self _)
    exact ⟨hparts, hne, (Url.uncut_iff.1 hsegment.uncut).1⟩
  · split at hb
    · cases hb
    · rename_i hscreen
      rw [hkind] at hb
      obtain ⟨_, _, rfl, hpolicy⟩ := ofParts_eq_ok hb
      rw [← hpolicy] at hb
      exact ⟨hb, by simpa [not_or] using hscreen⟩

/-- **Where a directory for another tenant leads.** It stays on the host, and its token endpoint names
nothing but this host and a path. The path is the tenant, percent-encoded, and the endpoint's own
names behind it, exactly if the tenant is a name that a path holds as it is: not one or two dots,
encoded or not, and without a backslash, a sign for a query or a fragment, a tab and a line end. -/
theorem withTenant_endpoint_iff {text tenant : String} {a b : Authority}
    (ha : parse text = .ok a) (hkind : a.kind = .aad) (hb : a.withTenant tenant = .ok b) :
    b.host = a.host ∧ b.tokenEndpoint.PlainOn a.host ∧
      Percent.encode Percent.path b.tenant.toList ≠ [] ∧
      (b.tokenEndpoint.path = tokenPath [Percent.encode Percent.path b.tenant.toList] ↔
        Url.IsPathName b.tenant.toList) := by
  obtain ⟨host, port, hreadable, hport, hplace, hparts, hne, hslash⟩ :=
    exists_parts_of_withTenant ha hkind hb
  obtain ⟨hplain, hpath⟩ := tokenEndpoint_of_ofParts hreadable hport hplace hparts
  refine ⟨(withTenant_kind_host hb).2, hplain, ?_, ?_⟩
  · exact Percent.encode_ne_nil fun hnil => hne (String.toList_eq_nil_iff.1 hnil)
  · rw [hpath, tokenPath_inj, Url.folder_eq_singleton_iff hslash]

/-- A tenant may have letters of any script, blanks and percent signs in its name. -/
theorem withTenant_endpoint_named :
    parse "https://[::1]/common" = .ok (Sample.directory "common" ["common"]) ∧
      (Sample.directory "common" ["common"]).withTenant "é x%2f" =
        .ok (Sample.directory "é x%2f" ["%C3%A9%20x%2f"]) ∧
      (Sample.directory "é x%2f" ["%C3%A9%20x%2f"]).tokenEndpoint.PlainOn "[::1]" ∧
      Url.IsPathName "é x%2f".toList := by
  have hread : parse "https://[::1]/common" = .ok (Sample.directory "common" ["common"]) := by rfl
  have hretargeted : (Sample.directory "common" ["common"]).withTenant "é x%2f" =
      .ok (Sample.directory "é x%2f" ["%C3%A9%20x%2f"]) := by rfl
  obtain ⟨_, hplain, _, hpath⟩ := withTenant_endpoint_iff hread rfl hretargeted
  exact ⟨hread, hretargeted, hplain, hpath.1 (by rfl)⟩

/-- **A tenant that leads out of its folder.** For the tenant that says to go up there is a directory, and
its token endpoint is that of no tenant at all; of a text that says so there is none, since the
tenant is missing. -/
theorem withTenant_up :
    parse "https://[::1]/common" = .ok (Sample.directory "common" ["common"]) ∧
      (Sample.directory "common" ["common"]).withTenant ".." = .ok (Sample.directory ".." []) ∧
      (Sample.directory ".." []).tokenEndpoint.text = "https://[::1]/oauth2/v2.0/token" ∧
      (Sample.directory ".." []).tokenEndpoint.path ≠
        tokenPath [Percent.encode Percent.path "..".toList] ∧
      parse "https://[::1]/../" = .error .missingPath :=
  ⟨by rfl, by rfl, by decide, by decide, by rfl⟩

end Authority

end SilentAuth
