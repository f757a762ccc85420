import SilentAuth.Application
import SilentAuth.Proofs.Text.Words
import SilentAuth.Proofs.Url.Places

/-!
# Authorities for the tenants of accounts

On behalf of an account an application may ask the authority of the account's tenant, in place of its
own. That authority differs from its own in the tenant alone, and there is one for every tenant that
can be a segment of a path.

* `Authority.ofParts_eq_ok`: the parts of an authority.
* `Authority.Named.exists_withTenant`: the tenants for which there is an authority.
* `Application.authorityFor_kind_host`: the authority that is asked about an account.
* `Application.authorityFor_of_tenant`, `Application.exists_authorityFor`,
  `Application.exists_authorityFor_of_plain`: when there is one, and which tenant it has.
-/

namespace SilentAuth

namespace Authority

/-- An authority that was made of parts has the URLs of the text that is made of them. -/
theorem urls_of_ofParts {kind : AuthorityKind} {host tenant : String} {policy : Option String}
    {a : Authority} (h : ofParts kind host tenant policy = .ok a) :
    ∃ base, baseText kind host tenant policy = .ok base ∧ Url.parse base = .ok a.canonical ∧
      a.tokenEndpoint = a.canonical.below (endpointFolder kind ++ ["token"]) ∧
      a.authorizeEndpoint = a.canonical.below (endpointFolder kind ++ ["authorize"]) := by
  unfold ofParts at h
  split at h
  · cases h
  · rename_i base hbase
    split at h
    · cases h
    · rename_i canonical hcanonical
      cases h
      exact ⟨base, hbase, hcanonical, rfl, rfl⟩

/-- An authority that was made of parts has them. -/
theorem ofParts_eq_ok {kind : AuthorityKind} {host tenant : String} {policy : Option String}
    {a : Authority} (h : ofParts kind host tenant policy = .ok a) :
    a.kind = kind ∧ a.host = host ∧ a.tenant = tenant ∧ a.policy = policy := by
  unfold ofParts at h
  split at h
  · cases h
  · split at h
    · cases h
    · cases h
      exact ⟨rfl, rfl, rfl, rfl⟩

/-- The authority for another tenant is of the same kind and on the same host. -/
theorem withTenant_kind_host {a b : Authority} {tenant : String}
    (h : a.withTenant tenant = .ok b) : b.kind = a.kind ∧ b.host = a.host := by
  unfold withTenant at h
  split at h
  · cases h
    exact ⟨rfl, rfl⟩
  · split at h
    · cases h
    · obtain ⟨hkind, hhost, _, _⟩ := ofParts_eq_ok h
      exact ⟨hkind, hhost⟩

/-- The authority for another tenant of a directory names that tenant, up to case. -/
theorem sameText_tenant_of_withTenant {a b : Authority} {tenant : String} (hkind : a.kind = .aad)
    (h : a.withTenant tenant = .ok b) : sameText b.tenant tenant = true := by
  unfold withTenant at h
  split at h
  · rename_i hsame
    cases h
    simpa [hkind] using hsame
  · split at h
    · cases h
    · obtain ⟨_, _, rfl, _⟩ := ofParts_eq_ok h
      exact sameText_refl _

/-- An authority that stands for many directories has the name of a tenant. -/
theorem tenant_ne_of_isTenantless {a : Authority} (h : a.isTenantless = true) : a.tenant ≠ "" := by
  intro hempty
  unfold isTenantless at h
  rw [hempty] at h
  have hnone : listed "" tenantlessNames = false := by decide
  simp [hnone] at h

/-! ### Authorities that texts name -/

/-- The authorities that an application can have: a text names one, or it is one for another tenant
of such an authority. -/
inductive Named : Authority → Prop
  | ofText {text : String} {a : Authority} : parse text = .ok a → Named a
  | forTenant {a b : Authority} {tenant : String} :
    Named a → a.withTenant tenant = .ok b → Named b

/-- The names in the path of an authority. -/
def pathNames (kind : AuthorityKind) (tenant : String) (policy : Option String) : List String :=
  match kind with
  | .adfs => [adfsSegment]
  | .b2c => [b2cSegment, tenant, policy.getD ""]
  | .aad => [tenant]

/-- The first segment of a path tells the kind of the authority. -/
theorem ofSegments_cons (host first : String) (rest : List String) :
    ofSegments host (first :: rest) =
      if sameText first adfsSegment then ofParts .adfs host adfsSegment none
      else if sameText first b2cSegment then
        match rest with
        | tenant :: policy :: _ => ofParts .b2c host tenant (some policy)
        | _ => .error .unsupportedB2c
      else ofParts .aad host first none := rfl

/-- The authority of a path is made of parts, and of the names that it has in its own path. -/
theorem ofSegments_eq_ok {host : String} {segments : List String} {a : Authority}
    (h : ofSegments host segments = .ok a) :
    ∃ kind tenant policy, ofParts kind host tenant policy = .ok a ∧
      ofSegments host (pathNames kind tenant policy) = .ok a ∧
      ∀ name ∈ pathNames kind tenant policy,
        name ∈ segments ∨ name = adfsSegment ∨ name = b2cSegment := by
  have hother : sameText b2cSegment adfsSegment = false := by decide
  unfold ofSegments at h
  split at h
  · cases h
  · rename_i first rest
    split at h
    · refine ⟨.adfs, _, _, h, ?_, ?_⟩
      · rw [pathNames, ofSegments_cons, if_pos (sameText_refl _), h]
      · simp [pathNames]
    · rename_i hadfs
      split at h
      · split at h
        · rename_i tenant policy _
          refine ⟨.b2c, tenant, some policy, h, ?_, ?_⟩
          · rw [pathNames, ofSegments_cons, if_neg (by simp [hother]), if_pos (sameText_refl _)]
            exact h
          · simp [pathNames]
        · cases h
      · rename_i hb2c
        refine ⟨.aad, first, none, h, ?_, ?_⟩
        · rw [pathNames, ofSegments_cons, if_neg hadfs, if_neg hb2c, h]
        · simp [pathNames]

/-- An authority that a text names is the one of the host and path of a URL. -/
theorem parse_eq_ok {text : String} {a : Authority} (h : parse text = .ok a) :
    ∃ url host, Url.parse text = .ok url ∧ url.scheme = Url.httpsScheme ∧ url.host = some host ∧
      ofSegments (foldCase (String.ofList (Url.writeHost host url.port)))
        ((url.segments.filter (!·.isEmpty)).map String.ofList) = .ok a := by
  unfold parse at h
  split at h
  · cases h
  rename_i url hurl
  unfold ofUrl at h
  split at h
  · cases h
  rename_i hscheme
  split at h
  · cases h
  split at h
  · cases h
  split at h
  · cases h
  rename_i host hhost
  exact ⟨url, host, hurl, by simpa [Url.httpsScheme] using hscheme, hhost, h⟩

/-- The text of an authority is that of a URL with its host. There is one unless a policy is missing. -/
theorem exists_baseText {kind : AuthorityKind} {policy : Option String}
    (h : kind = .b2c → policy.isSome = true) (host tenant : String) :
    ∃ tail, baseText kind host tenant policy = .ok ("https://" ++ host ++ "/" ++ tail) := by
  cases kind with
  | aad =>
    refine ⟨tenant ++ "/", congrArg Except.ok ?_⟩
    show "https://" ++ host ++ "/" ++ tenant ++ "/" = _
    simp only [String.append_assoc]
  | adfs =>
    refine ⟨adfsSegment ++ "/", congrArg Except.ok ?_⟩
    show "https://" ++ host ++ "/" ++ adfsSegment ++ "/" = _
    simp only [String.append_assoc]
  | b2c =>
    obtain ⟨name, rfl⟩ := Option.isSome_iff_exists.1 (h rfl)
    refine ⟨b2cSegment ++ "/" ++ tenant ++ "/" ++ name ++ "/", congrArg Except.ok ?_⟩
    show "https://" ++ host ++ "/" ++ b2cSegment ++ "/" ++ tenant ++ "/" ++ name ++ "/" = _
    simp only [String.append_assoc]

/-- There is an authority with these parts exactly if the text of its URL can be read. -/
theorem isOk_ofParts {kind : AuthorityKind} {host tenant : String} {policy : Option String}
    {base : String} (h : baseText kind host tenant policy = .ok base) :
    (ofParts kind host tenant policy).isOk = (Url.parse base).isOk := by
  unfold ofParts
  rw [h]
  dsimp only
  split <;> rename_i hparse <;> rw [hparse] <;> rfl

/-- Whether there is an authority with these parts depends on the host alone, unless a policy is
missing. -/
theorem isOk_ofParts_congr {host : String} (h : Url.LeadsHost host.toList)
    {kind kind' : AuthorityKind} {policy policy' : Option String}
    (hpolicy : kind = .b2c → policy.isSome = true)
    (hpolicy' : kind' = .b2c → policy'.isSome = true) (tenant tenant' : String) :
    (ofParts kind host tenant policy).isOk = (ofParts kind' host tenant' policy').isOk := by
  obtain ⟨tail, htext⟩ := exists_baseText hpolicy host tenant
  obtain ⟨tail', htext'⟩ := exists_baseText hpolicy' host tenant'
  rw [isOk_ofParts htext, isOk_ofParts htext', Url.isOk_parse_congr h tail tail']

namespace Named

/-- A host of a text that names an authority can be the host of one. -/
theorem leadsHost {a : Authority} (h : a.Named) :
    Url.LeadsHost a.host.toList ∧ (ofParts a.kind a.host a.tenant a.policy).isOk = true := by
  induction h with
  | @ofText text a h =>
    obtain ⟨url, host, hurl, hscheme, hhost, hsegments⟩ := parse_eq_ok h
    obtain ⟨kind, tenant, policy, hparts, _⟩ := ofSegments_eq_ok hsegments
    obtain ⟨rfl, hhostText, rfl, rfl⟩ := ofParts_eq_ok hparts
    refine ⟨?_, ?_⟩
    · rw [hhostText, toList_foldCase, String.toList_ofList]
      exact (Url.leadsHost_of_parse hurl hscheme hhost).map_toLower
    · rw [hhostText, hparts]
      rfl
  | @forTenant a b tenant _ h ih =>
    unfold withTenant at h
    split at h
    · cases h
      exact ih
    · split at h
      · cases h
      · obtain ⟨hkind, hhost, htenant, hpolicy⟩ := ofParts_eq_ok h
        rw [hkind, hhost, htenant, hpolicy, h]
        exact ⟨ih.1, rfl⟩

/-- The host of an authority is in lower case. -/
theorem foldCase_host {a : Authority} (h : a.Named) : foldCase a.host = a.host := by
  induction h with
  | @ofText text a h =>
    obtain ⟨url, host, _, _, _, hsegments⟩ := parse_eq_ok h
    obtain ⟨kind, tenant, policy, hparts, _⟩ := ofSegments_eq_ok hsegments
    rw [(ofParts_eq_ok hparts).2.1, foldCase_foldCase]
  | forTenant _ h ih => rw [(withTenant_kind_host h).2, ih]

/-- There is an authority for the tenant of the authority itself, and for every one that can be a
segment of a path. -/
theorem exists_withTenant {a : Authority} (h : a.Named) {tenant : String}
    (htenant : sameText a.tenant tenant = true ∨ tenant ≠ "" ∧ '/' ∉ tenant.toList) :
    ∃ b, a.withTenant tenant = .ok b := by
  unfold withTenant
  split
  · exact ⟨a, rfl⟩
  rename_i hother
  have hdiffers : sameText a.tenant tenant ≠ true := fun hsame => hother (by simp [hsame])
  have hkind : a.kind ≠ .b2c := fun hkind => hother (by simp [hkind])
  obtain ⟨hne, hslash⟩ := htenant.resolve_left hdiffers
  rw [if_neg (by simp [hne, hslash])]
  obtain ⟨hleads, hok⟩ := h.leadsHost
  have hsame : (ofParts a.kind a.host a.tenant a.policy).isOk =
      (ofParts a.kind a.host tenant none).isOk :=
    isOk_ofParts_congr hleads (fun hb2c => absurd hb2c hkind) (fun hb2c => absurd hb2c hkind) _ _
  rw [hsame] at hok
  cases hparts : ofParts a.kind a.host tenant none with
  | ok b => exact ⟨b, rfl⟩
  | error e =>
    rw [hparts] at hok
    cases hok

end Named

namespace Sample

/-- The URLs on a host that is named by its address. -/
def loopback (names : List String) : Url where
  scheme := "https".toList
  username := []
  password := []
  host := some (.ipv6 [0, 0, 0, 0, 0, 0, 0, 1])
  port := none
  path := .segments (names.map String.toList)
  query := none
  fragment := none

/-- A directory on this host, whose tenant is read as a folder. -/
def directory (tenant : String) (folder : List String) : Authority where
  kind := .aad
  host := "[::1]"
  tenant := tenant
  policy := none
  canonical := loopback (folder ++ [""])
  tokenEndpoint := loopback (folder ++ ["oauth2", "v2.0", "token"])
  authorizeEndpoint := loopback (folder ++ ["oauth2", "v2.0", "authorize"])

end Sample

end Authority

/-- The authority that is asked about an account is of the kind of the application's and on the same
host. -/
theorem Application.authorityFor_kind_host {app : Application} {account : Account}
    {authority : Authority} (h : app.authorityFor account = .ok authority) :
    authority.kind = app.authority.kind ∧ authority.host = app.authority.host := by
  unfold authorityFor at h
  split at h
  · cases hwith : app.authority.withTenant account.tenantId with
    | error e =>
      rw [hwith] at h
      cases h
    | ok b =>
      rw [hwith] at h
      cases h
      exact Authority.withTenant_kind_host hwith
  · cases h
    exact ⟨rfl, rfl⟩

/-- There is none to ask only if the tenant of the account cannot be one. -/
theorem Application.authorityFor_eq_error {app : Application} {account : Account} {e : Error}
    (h : app.authorityFor account = .error e) : ∃ fault, e = .invalidAuthority fault := by
  unfold authorityFor at h
  split at h
  · cases hwith : app.authority.withTenant account.tenantId with
    | error fault =>
      rw [hwith] at h
      cases h
      exact ⟨fault, rfl⟩
    | ok b =>
      rw [hwith] at h
      cases h
  · cases h

/-- An application that names a tenant asks its own authority about every account. -/
theorem Application.authorityFor_of_tenant {app : Application}
    (h : app.authority.isTenantless = false) (account : Account) :
    app.authorityFor account = .ok app.authority := by
  simp [authorityFor, h]

/-- An application that names no tenant asks the authority of the account's tenant, if that is its own
or can be a segment of a path. -/
theorem Application.exists_authorityFor {app : Application} {account : Account}
    (hnamed : app.authority.Named) (htenantless : app.authority.isTenantless = true)
    (htenant : sameText app.authority.tenant account.tenantId = true ∨
      account.tenantId ≠ "" ∧ '/' ∉ account.tenantId.toList) :
    ∃ authority, app.authorityFor account = .ok authority ∧
      sameText authority.tenant account.tenantId = true := by
  have hne : account.tenantId ≠ "" := by
    rcases htenant with hsame | ⟨hne, _⟩
    · intro hempty
      rw [hempty, sameText_iff] at hsame
      exact Authority.tenant_ne_of_isTenantless htenantless (eq_empty_of_foldCase hsame)
    · exact hne
  have hkind : app.authority.kind = .aad := by
    simpa using (Bool.and_eq_true_iff.1 htenantless).1
  obtain ⟨authority, hwith⟩ := hnamed.exists_withTenant htenant
  refine ⟨authority, ?_, Authority.sameText_tenant_of_withTenant hkind hwith⟩
  simp [authorityFor, htenantless, hne, hwith, Except.mapError]

/-- There is an authority to ask about every account whose tenant has no separator in it. -/
theorem Application.exists_authorityFor_of_plain {app : Application} {account : Account}
    (hnamed : app.authority.Named) (hslash : '/' ∉ account.tenantId.toList) :
    ∃ authority, app.authorityFor account = .ok authority := by
  cases htenantless : app.authority.isTenantless with
  | false => exact ⟨app.authority, authorityFor_of_tenant htenantless account⟩
  | true =>
    by_cases hempty : account.tenantId = ""
    · exact ⟨app.authority, by simp [authorityFor, hempty]⟩
    · obtain ⟨authority, hauthority, _⟩ :=
        exists_authorityFor hnamed htenantless (.inr ⟨hempty, hslash⟩)
      exact ⟨authority, hauthority⟩

end SilentAuth
