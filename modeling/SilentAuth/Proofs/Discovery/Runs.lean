import SilentAuth.Proofs.Discovery.Registration
import SilentAuth.Session

/-!
# Runs of lookups

A run is a list of lookups that work one after another on a session, each for an authority of its
own and with or without validation. The discovery endpoint may answer every question differently, or
not at all.

* `Action.resolve_again`: a lookup that succeeded finds the same when it is repeated.
* `HostLookup.trace`: the lookups of a run, each with the session as it found it.
* `HostLookup.cached?_perform_isSome_iff`: which hosts one lookup makes known.
* `HostLookup.cached?_final_isSome_iff`: which hosts are known after a run.
-/

namespace SilentAuth

/-! ### A lookup that is repeated -/

/-- A lookup that succeeds leaves what it found in the map. -/
theorem Action.cached?_resolve_of_eq_ok {a : Authority} {validate : Bool} {services : Services}
    {s t : Session} {m : InstanceMetadata} (h : resolve a validate services s = (.ok m, t)) :
    t.discovery.cached? a.host = some m := by
  unfold resolve at h
  split at h
  · rename_i known hinquire
    cases h
    unfold DiscoveryCache.inquire at hinquire
    split at hinquire
    · rename_i hcached
      cases hinquire
      exact hcached
    · split at hinquire <;> cases hinquire
  · cases h
    have hself : (InstanceMetadata.forSelf a.host).hasAlias a.host = true :=
      InstanceMetadata.hasAlias_forSelf.2 (sameText_refl a.host)
    rw [DiscoveryCache.cached?_register, if_pos hself]
  · obtain ⟨hverdict, rfl⟩ := Prod.mk.inj h
    exact DiscoveryCache.cached?_conclude_of_eq_ok (Prod.ext hverdict rfl)

/-- A lookup fails only since the host is not trusted. -/
theorem Action.resolve_eq_error {a : Authority} {validate : Bool} {services : Services}
    {s t : Session} {e : Error} (h : resolve a validate services s = (.error e, t)) :
    ∃ source, e = .authorityNotTrusted a.host source := by
  unfold resolve at h
  split at h
  · cases h
  · cases h
  · exact DiscoveryCache.conclude_eq_error (Prod.mk.inj h).1

/-- A lookup of a host that is known gives what is known, and asks nobody. -/
theorem Action.resolve_of_cached {a : Authority} {s : Session} {m : InstanceMetadata}
    (h : s.discovery.cached? a.host = some m) (validate : Bool) (services : Services) :
    resolve a validate services s = (.ok m, s) := by
  have hinquire : s.discovery.inquire a = .known m := by
    rw [DiscoveryCache.inquire, h]
  rw [resolve, hinquire]

/-- A lookup that succeeded finds the same when it is repeated, also on behalf of another authority
on the host, and asks nobody. -/
theorem Action.resolve_again {a b : Authority} {validate : Bool} {services : Services}
    {s t u : Session} {m : InstanceMetadata} (h : resolve a validate services s = (.ok m, t))
    (hhost : b.host = a.host) (hu : u.discovery = t.discovery) (services' : Services) :
    resolve b validate services' u = (.ok m, u) := by
  apply resolve_of_cached
  rw [hhost, hu]
  exact cached?_resolve_of_eq_ok h

/-! ### Lookups -/

/-- A lookup of the host of an authority. -/
structure HostLookup where
  authority : Authority
  /-- Whether the endpoint has to vouch for the host. -/
  validate : Bool

namespace HostLookup

variable (services : Services)

/-- What a lookup finds, and the session afterwards. -/
def perform (s : Session) (l : HostLookup) : Except Error InstanceMetadata × Session :=
  Action.resolve l.authority l.validate services s

/-- The session after the lookups of a list. -/
def final (s : Session) (lookups : List HostLookup) : Session :=
  lookups.foldl (fun s l => (l.perform services s).2) s

/-- The lookups of a run, each with the session as it found it. -/
def trace (s : Session) : List HostLookup → List (Session × HostLookup)
  | [] => []
  | l :: rest => (s, l) :: trace (l.perform services s).2 rest

/-- What the endpoint answers to a lookup that asks it. -/
def received? (s : Session) (l : HostLookup) : Option DiscoveryResponse :=
  match s.discovery.inquire l.authority with
  | .ask question => services.discover s.journal.questions.length question
  | .known _ | .alone => none

/-- The endpoint vouches for a host: its answer names an endpoint of the tenant and mentions the
host. -/
def Vouches (s : Session) (l : HostLookup) (host : String) : Prop :=
  ∃ r, l.received? services s = some r ∧ r.tenantEndpoint.isSome = true ∧ r.Mentions host

/-- A host is taken over from an answer that names no endpoint of the tenant, since the lookup does
not validate. -/
def TakesUnvouched (s : Session) (l : HostLookup) (host : String) : Prop :=
  l.validate = false ∧
    ∃ r, l.received? services s = some r ∧ r.tenantEndpoint = none ∧ r.Mentions host

/-- A host that is not known is taken to have only its own name, since it is no host of a directory,
or since the lookup does not validate and no answer mentions it. -/
def AssumesAlone (s : Session) (l : HostLookup) (host : String) : Prop :=
  sameText l.authority.host host = true ∧ s.discovery.cached? host = none ∧
    (l.authority.kind ≠ .aad ∨
      l.validate = false ∧ ∀ r, l.received? services s = some r → ¬ r.Mentions host)

/-- The ways in which a lookup makes a host known. -/
def Admits (s : Session) (l : HostLookup) (host : String) : Prop :=
  l.Vouches services s host ∨ l.TakesUnvouched services s host ∨ l.AssumesAlone services s host

/-! ### One lookup -/

/-- A lookup does not change whom the map may ask. -/
theorem perform_asks (s : Session) (l : HostLookup) :
    (l.perform services s).2.discovery.hasSource = s.discovery.hasSource ∧
      (l.perform services s).2.discovery.seeded = s.discovery.seeded := by
  unfold perform Action.resolve
  split
  · exact ⟨rfl, rfl⟩
  · exact ⟨rfl, rfl⟩
  · unfold DiscoveryCache.conclude
    dsimp only
    split
    · exact DiscoveryCache.registerAll_hasSource _ _
    · split
      · exact DiscoveryCache.registerAll_hasSource _ _
      · exact DiscoveryCache.registerAll_hasSource _ _

/-- What a map that may ask does about the host of an authority. -/
theorem inquire_cases {d : DiscoveryCache} (hsource : d.hasSource = true)
    (hseeded : d.seeded = false) (a : Authority) :
    (∃ m, d.cached? a.host = some m ∧ d.inquire a = .known m) ∨
      (d.cached? a.host = none ∧ a.kind ≠ .aad ∧ d.inquire a = .alone) ∨
      (d.cached? a.host = none ∧ a.kind = .aad ∧ ∃ question, d.inquire a = .ask question) := by
  unfold DiscoveryCache.inquire
  cases hcached : d.cached? a.host with
  | some m => exact .inl ⟨m, rfl, rfl⟩
  | none =>
    by_cases hkind : a.kind = .aad
    · refine .inr (.inr ⟨rfl, hkind, ?_⟩)
      simp [hsource, hseeded, hkind]
    · refine .inr (.inl ⟨rfl, hkind, ?_⟩)
      simp [hsource, hseeded, hkind]

/-- Which hosts one lookup makes known. -/
theorem cached?_perform_isSome_iff {s : Session} (hsource : s.discovery.hasSource = true)
    (hseeded : s.discovery.seeded = false) (l : HostLookup) (host : String) :
    ((l.perform services s).2.discovery.cached? host).isSome = true ↔
      (s.discovery.cached? host).isSome = true ∨ l.Admits services s host := by
  rcases inquire_cases hsource hseeded l.authority with
    ⟨m, hknown, hinquire⟩ | ⟨hunknown, hkind, hinquire⟩ | ⟨hunknown, hkind, question, hinquire⟩
  · -- a host that is known is given without a change
    have hsame : (l.perform services s).2 = s := by
      simp [perform, Action.resolve, hinquire]
    have hreceived : l.received? services s = none := by
      simp [received?, hinquire]
    rw [hsame]
    constructor
    · exact .inl
    · rintro (h | ⟨r, hr, _⟩ | ⟨_, r, hr, _⟩ | ⟨hsameHost, hnone, _⟩)
      · exact h
      · rw [hreceived] at hr
        cases hr
      · rw [hreceived] at hr
        cases hr
      · rw [← s.discovery.cached?_congr hsameHost, hknown] at hnone
        cases hnone
  · -- a host outside of directories has its own name only
    have hafter : (l.perform services s).2.discovery =
        s.discovery.register (.forSelf l.authority.host) := by
      simp [perform, Action.resolve, hinquire]
    have hreceived : l.received? services s = none := by
      simp [received?, hinquire]
    rw [hafter, DiscoveryCache.cached?_register]
    by_cases hhost : sameText l.authority.host host = true
    · have hnone : s.discovery.cached? host = none :=
        (s.discovery.cached?_congr hhost) ▸ hunknown
      rw [if_pos (InstanceMetadata.hasAlias_forSelf.2 hhost)]
      simp [Admits, AssumesAlone, hhost, hnone, hkind]
    · rw [if_neg (mt InstanceMetadata.hasAlias_forSelf.1 hhost)]
      simp [Admits, Vouches, TakesUnvouched, AssumesAlone, hreceived, hhost]
  · -- the endpoint is asked, and its answer decides
    have hafter : (l.perform services s).2.discovery =
        (s.discovery.conclude l.authority.host l.validate (l.received? services s)).2 := by
      simp [perform, Action.resolve, received?, hinquire]
    rw [hafter, DiscoveryCache.cached?_conclude_isSome_iff]
    refine or_congr_right ⟨?_, ?_⟩
    · rintro (⟨r, hr, hallowed, hmentions⟩ | ⟨hvalidate, hhost, hun⟩)
      · cases htenant : r.tenantEndpoint with
        | some endpoint => exact .inl ⟨r, hr, by simp [htenant], hmentions⟩
        | none =>
          refine .inr (.inl ⟨?_, r, hr, htenant, hmentions⟩)
          simpa [htenant] using hallowed
      · have hnone : s.discovery.cached? host = none :=
          (s.discovery.cached?_congr hhost) ▸ hunknown
        refine .inr (.inr ⟨hhost, hnone, .inr ⟨hvalidate, ?_⟩⟩)
        intro r hr hmentions
        exact hun r hr ((DiscoveryResponse.mentions_congr hhost).2 hmentions)
    · rintro (⟨r, hr, htenant, hmentions⟩ | ⟨hvalidate, r, hr, _, hmentions⟩ |
        ⟨hhost, _, hnot | ⟨hvalidate, hun⟩⟩)
      · exact .inl ⟨r, hr, fun _ => htenant, hmentions⟩
      · refine .inl ⟨r, hr, ?_, hmentions⟩
        rw [hvalidate]
        exact fun h => by cases h
      · exact absurd hkind hnot
      · refine .inr ⟨hvalidate, hhost, ?_⟩
        intro r hr hmentions
        exact hun r hr ((DiscoveryResponse.mentions_congr hhost).1 hmentions)

/-! ### Whole runs -/

/-- A run does not change whom the map may ask. -/
theorem final_asks (s : Session) (lookups : List HostLookup) :
    (final services s lookups).discovery.hasSource = s.discovery.hasSource ∧
      (final services s lookups).discovery.seeded = s.discovery.seeded := by
  induction lookups generalizing s with
  | nil => exact ⟨rfl, rfl⟩
  | cons l rest ih =>
    obtain ⟨hsource, hseeded⟩ := perform_asks services s l
    obtain ⟨hsource', hseeded'⟩ := ih (l.perform services s).2
    exact ⟨hsource'.trans hsource, hseeded'.trans hseeded⟩

/-- A host is known after a run exactly if it was known before or some lookup made it known. -/
theorem cached?_final_isSome_iff {s : Session} (hsource : s.discovery.hasSource = true)
    (hseeded : s.discovery.seeded = false) (lookups : List HostLookup) (host : String) :
    ((final services s lookups).discovery.cached? host).isSome = true ↔
      (s.discovery.cached? host).isSome = true ∨
        ∃ e ∈ trace services s lookups, e.2.Admits services e.1 host := by
  induction lookups generalizing s with
  | nil => simp [final, trace]
  | cons l rest ih =>
    obtain ⟨hs, hd⟩ := perform_asks services s l
    have hrest := ih (s := (l.perform services s).2) (hs.trans hsource) (hd.trans hseeded)
    have hfinal : final services s (l :: rest) = final services (l.perform services s).2 rest := rfl
    rw [hfinal, hrest, cached?_perform_isSome_iff services hsource hseeded]
    simp only [trace, List.mem_cons, exists_eq_or_imp, or_assoc]

/-- The trace of a run that goes on by one lookup. -/
theorem trace_append_singleton (s : Session) (lookups : List HostLookup) (l : HostLookup) :
    trace services s (lookups ++ [l]) =
      trace services s lookups ++ [(final services s lookups, l)] := by
  induction lookups generalizing s with
  | nil => rfl
  | cons first rest ih =>
    simp only [List.cons_append, trace, ih, final, List.foldl_cons]

end HostLookup

end SilentAuth
