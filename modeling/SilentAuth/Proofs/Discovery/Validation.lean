import SilentAuth.Proofs.Discovery.Runs

/-!
# What validation of hosts comes to

A lookup that validates the host of a directory succeeds if the endpoint vouches for the host, now
or earlier in the run. It also succeeds if the host became known in a way that nobody vouched for:
hosts of directories and of other services, and hosts of lookups with and without validation, are
kept in one map, and a host that is in the map is not asked about again.

* `HostLookup.validated_isOk_iff`: the exact condition.
* `HostLookup.validated_isOk_unvouched`: a host that no answer ever mentioned passes validation.
-/

namespace SilentAuth

namespace HostLookup

variable (services : Services)

/-- A run from a map that holds nothing knows the hosts that one of its lookups admitted. -/
theorem cached?_final_asking_isSome_iff {s : Session} (hs : s.discovery = .asking)
    (lookups : List HostLookup) (host : String) :
    ((final services s lookups).discovery.cached? host).isSome = true ↔
      ∃ e ∈ trace services s lookups, e.2.Admits services e.1 host := by
  have hsource : s.discovery.hasSource = true := by rw [hs]; rfl
  have hseeded : s.discovery.seeded = false := by rw [hs]; rfl
  have hempty : s.discovery.cached? host = none := by rw [hs]; rfl
  rw [cached?_final_isSome_iff services hsource hseeded, hempty]
  simp

/-- **When validation passes.** After any run of lookups on a map that held nothing, a lookup that
validates the host of a directory succeeds exactly if the endpoint vouches for the host, in this
lookup or an earlier one, or if an earlier lookup took the host from an answer without an endpoint
of the tenant, or assumed that it has only its own name. -/
theorem validated_isOk_iff {s : Session} (hs : s.discovery = .asking) (lookups : List HostLookup)
    {a : Authority} (ha : a.kind = .aad) :
    (∃ m, (perform services (final services s lookups) ⟨a, true⟩).1 = .ok m) ↔
      (∃ e ∈ trace services s (lookups ++ [⟨a, true⟩]), e.2.Vouches services e.1 a.host) ∨
        ∃ e ∈ trace services s lookups,
          e.2.TakesUnvouched services e.1 a.host ∨ e.2.AssumesAlone services e.1 a.host := by
  obtain ⟨hsource, hseeded⟩ := final_asks services s lookups
  rw [hs] at hsource hseeded
  have hknown := cached?_final_asking_isSome_iff services hs lookups a.host
  rw [trace_append_singleton]
  simp only [List.mem_append, List.mem_singleton, or_and_right, exists_or, exists_eq_left]
  rcases inquire_cases hsource hseeded a with
    ⟨m, hcached, hinquire⟩ | ⟨_, hkind, _⟩ | ⟨hunknown, _, question, hinquire⟩
  · -- the host is in the map, so some earlier lookup admitted it
    have hok : (perform services (final services s lookups) ⟨a, true⟩).1 = .ok m := by
      simp [perform, Action.resolve, hinquire]
    obtain ⟨e, he, hvouches | hunvouched⟩ := hknown.1 (by rw [hcached]; rfl)
    · exact ⟨fun _ => .inl (.inl ⟨e, he, hvouches⟩), fun _ => ⟨m, hok⟩⟩
    · exact ⟨fun _ => .inr ⟨e, he, hunvouched⟩, fun _ => ⟨m, hok⟩⟩
  · exact absurd ha hkind
  · -- the host is not in the map, so no earlier lookup admitted it, and the answer decides
    have hnot : ¬ ∃ e ∈ trace services s lookups, e.2.Admits services e.1 a.host := by
      rw [← hknown, hunknown]
      simp
    have hnow : (∃ m, (perform services (final services s lookups) ⟨a, true⟩).1 = .ok m) ↔
        Vouches services (final services s lookups) ⟨a, true⟩ a.host := by
      have hresult : (perform services (final services s lookups) ⟨a, true⟩).1 =
          ((final services s lookups).discovery.conclude a.host true
            (received? services (final services s lookups) ⟨a, true⟩)).1 := by
        simp [perform, Action.resolve, received?, hinquire]
      rw [hresult, DiscoveryCache.conclude_validated_isOk_iff]
      rfl
    rw [hnow]
    constructor
    · exact fun h => .inl (.inr h)
    · rintro ((⟨e, he, h⟩ | h) | ⟨e, he, h⟩)
      · exact absurd ⟨e, he, .inl h⟩ hnot
      · exact h
      · exact absurd ⟨e, he, .inr h⟩ hnot

/-! ### A host that nobody vouches for -/

namespace Sample

/-- A directory on a host that is not one of the trusted ones. -/
def authority : Authority where
  kind := .aad
  host := "login.example.org"
  tenant := "common"
  policy := none
  canonical := ⟨"https".toList, [], [], some (.domain "login.example.org".toList), none,
    .segments ["common".toList, []], none, none⟩
  tokenEndpoint := ⟨"https".toList, [], [], some (.domain "login.example.org".toList), none,
    .segments ["common".toList, "oauth2".toList, "v2.0".toList, "token".toList], none, none⟩
  authorizeEndpoint := ⟨"https".toList, [], [], some (.domain "login.example.org".toList), none,
    .segments ["common".toList, "oauth2".toList, "v2.0".toList, "authorize".toList], none, none⟩

/-- Services that never answer. -/
def silent : Services := ⟨fun _ _ => none, fun _ _ => ⟨.error .unspecified, none, ⟨0⟩⟩⟩

/-- A session in which no host is known. -/
def session : Session := ⟨.new, .asking, ⟨0⟩, none, .empty⟩

end Sample

/-- Nobody vouches for a host if there are no answers. -/
theorem not_vouches_silent (s : Session) (l : HostLookup) (host : String) :
    ¬ l.Vouches Sample.silent s host := by
  rintro ⟨r, hr, _⟩
  unfold received? at hr
  split at hr <;> cases hr

/-- A lookup without validation, which goes unanswered, lets the host pass validation from then on,
though no answer ever mentioned it. -/
theorem validated_isOk_unvouched :
    (perform Sample.silent (final Sample.silent Sample.session [⟨Sample.authority, false⟩])
        ⟨Sample.authority, true⟩).1 = .ok (.forSelf "login.example.org") ∧
      ¬ ∃ e ∈ trace Sample.silent Sample.session
          ([⟨Sample.authority, false⟩] ++ [⟨Sample.authority, true⟩]),
        e.2.Vouches Sample.silent e.1 "login.example.org" := by
  refine ⟨by rfl, ?_⟩
  rintro ⟨e, _, he⟩
  exact not_vouches_silent _ _ _ he

/-- The same host passes since the earlier lookup assumed that it has only its own name. -/
theorem validated_isOk_assumed :
    Sample.session.discovery = .asking ∧ Sample.authority.kind = .aad ∧
      ∃ m, (perform Sample.silent (final Sample.silent Sample.session [⟨Sample.authority, false⟩])
        ⟨Sample.authority, true⟩).1 = .ok m := by
  refine ⟨rfl, rfl, (validated_isOk_iff Sample.silent rfl _ rfl).2 (.inr ?_)⟩
  refine ⟨(Sample.session, ⟨Sample.authority, false⟩), by simp [trace],
    .inr ⟨?_, rfl, .inr ⟨rfl, ?_⟩⟩⟩
  · exact sameText_refl _
  · intro r hr
    unfold received? at hr
    split at hr <;> cases hr

end HostLookup

end SilentAuth
