import SilentAuth.Discovery

/-!
# What the map of hosts holds

A host is found in the map under its name in lower case, whatever the case in which it is asked for.
Registering metadata stores it under all names of its instance and leaves other hosts alone; of
several metadata that name a host the one registered last counts.

* `DiscoveryCache.cached?_register`, `DiscoveryCache.cached?_registerAll`: what is found afterwards.
* `DiscoveryCache.cached?_conclude_isSome_iff`: which hosts are known once an answer is in.
* `DiscoveryCache.cached?_conclude_of_eq_ok`: a lookup that succeeds leaves what it found in the
  map.
-/

namespace SilentAuth

/-! ### Names of an instance -/

/-- A host that has no other name goes by its own name, up to case. -/
theorem InstanceMetadata.hasAlias_forSelf {host other : String} :
    (InstanceMetadata.forSelf host).hasAlias other = true ↔ sameText host other = true := by
  simp [InstanceMetadata.hasAlias, InstanceMetadata.forSelf, listed_iff]

/-- A host on its own is the same, whatever the case in which it is written. -/
theorem InstanceMetadata.forSelf_congr {a b : String} (h : sameText a b = true) :
    forSelf a = forSelf b := by
  rw [forSelf, forSelf, sameText_iff.1 h]

/-- Metadata that names the same hosts. -/
def InstanceMetadata.SameNames (m m' : InstanceMetadata) : Prop :=
  ∀ host, m.hasAlias host = m'.hasAlias host

/-- Metadata that names the same hosts or has no host in common. -/
def InstanceMetadata.Agrees (m m' : InstanceMetadata) : Prop :=
  ∀ host, m.hasAlias host = true → m'.hasAlias host = true → m.SameNames m'

theorem InstanceMetadata.agrees_self (m : InstanceMetadata) : m.Agrees m := fun _ _ _ _ => rfl

/-- Whether an answer names a host as one of the instances it lists. -/
def DiscoveryResponse.Mentions (r : DiscoveryResponse) (host : String) : Prop :=
  ∃ m ∈ r.metadata, m.hasAlias host = true

/-- Answers mention hosts without regard to case. -/
theorem DiscoveryResponse.mentions_congr {r : DiscoveryResponse} {a b : String}
    (h : sameText a b = true) : r.Mentions a ↔ r.Mentions b := by
  simp only [DiscoveryResponse.Mentions, InstanceMetadata.hasAlias, listed_congr h]

namespace DiscoveryCache

/-! ### Registering -/

/-- Hosts are found without regard to case. -/
theorem cached?_congr (d : DiscoveryCache) {a b : String} (h : sameText a b = true) :
    d.cached? a = d.cached? b := by
  unfold cached?
  rw [sameText_iff.1 h]

/-- What is stored under a key after one value was stored under all names of a list. -/
theorem find?_foldl_insert (m : InstanceMetadata) (host : String) (names : List String)
    (hosts : Dict InstanceMetadata) :
    (names.foldl (fun hosts name => hosts.insert (foldCase name) m) hosts).find? (foldCase host) =
      if listed host names = true then some m else hosts.find? (foldCase host) := by
  induction names generalizing hosts with
  | nil => simp [listed]
  | cons name rest ih =>
    rw [List.foldl_cons, ih]
    by_cases hrest : listed host rest = true
    · have hall : listed host (name :: rest) = true := by
        simp only [listed, List.any_cons, Bool.or_eq_true]
        exact .inr hrest
      rw [if_pos hrest, if_pos hall]
    · rw [if_neg hrest]
      by_cases hname : foldCase name = foldCase host
      · have hall : listed host (name :: rest) = true := by
          simp [listed, hname]
        rw [if_pos hall, hname, Dict.find?_insert_self]
      · have hall : ¬ listed host (name :: rest) = true := by
          simp only [listed, List.any_cons, Bool.or_eq_true, sameText_iff, not_or]
          exact ⟨hname, hrest⟩
        rw [if_neg hall, Dict.find?_insert_of_ne _ (Ne.symm hname)]

/-- Registered metadata is found under every name of its instance; other hosts are left alone. -/
theorem cached?_register (d : DiscoveryCache) (m : InstanceMetadata) (host : String) :
    (d.register m).cached? host = if m.hasAlias host = true then some m else d.cached? host :=
  find?_foldl_insert m host m.aliases d.hosts

/-- Of several metadata that name a host the one registered last is found. -/
theorem cached?_registerAll (d : DiscoveryCache) (metadata : List InstanceMetadata)
    (host : String) :
    (d.registerAll metadata).cached? host =
      (metadata.filter (·.hasAlias host)).getLast?.or (d.cached? host) := by
  induction metadata generalizing d with
  | nil => rfl
  | cons m rest ih =>
    have hcons : d.registerAll (m :: rest) = (d.register m).registerAll rest := rfl
    rw [hcons, ih, cached?_register]
    by_cases hm : m.hasAlias host = true
    · have hfilter : (m :: rest).filter (·.hasAlias host) = m :: rest.filter (·.hasAlias host) :=
        List.filter_cons_of_pos hm
      rw [if_pos hm, hfilter, List.getLast?_cons]
      cases (rest.filter (·.hasAlias host)).getLast? <;> rfl
    · have hfilter : (m :: rest).filter (·.hasAlias host) = rest.filter (·.hasAlias host) :=
        List.filter_cons_of_neg hm
      rw [if_neg hm, hfilter]

/-- Registering does not change whom the map may ask. -/
theorem registerAll_hasSource (d : DiscoveryCache) (metadata : List InstanceMetadata) :
    (d.registerAll metadata).hasSource = d.hasSource ∧
      (d.registerAll metadata).seeded = d.seeded := by
  induction metadata generalizing d with
  | nil => exact ⟨rfl, rfl⟩
  | cons m rest ih => exact ih (d.register m)

/-- An answer makes known every host that it mentions. -/
theorem cached?_registerAll_isSome_iff {d : DiscoveryCache} {r : DiscoveryResponse}
    {host : String} :
    ((d.registerAll r.metadata).cached? host).isSome = true ↔
      (d.cached? host).isSome = true ∨ r.Mentions host := by
  have hnamed : (r.metadata.filter (·.hasAlias host)).getLast?.isSome = true ↔ r.Mentions host := by
    rw [Option.isSome_iff_ne_none, ne_eq, List.getLast?_eq_none_iff, List.filter_eq_nil_iff]
    simp [DiscoveryResponse.Mentions]
  rw [cached?_registerAll, Option.isSome_or, Bool.or_eq_true, hnamed, or_comm]

/-! ### Ending a lookup -/

/-- Which hosts are known once an answer, or none, is in: those known before, those mentioned in an
answer that is not refused for lack of an endpoint, and the host itself if it is not mentioned and
does not have to be validated. -/
theorem cached?_conclude_isSome_iff {d : DiscoveryCache} {host other : String} {validate : Bool}
    {answer : Option DiscoveryResponse} :
    (((d.conclude host validate answer).2).cached? other).isSome = true ↔
      (d.cached? other).isSome = true ∨
        (∃ r, answer = some r ∧ (validate = true → r.tenantEndpoint.isSome = true) ∧
          r.Mentions other) ∨
        (validate = false ∧ sameText host other = true ∧
          ∀ r, answer = some r → ¬ r.Mentions host) := by
  have hself (d' : DiscoveryCache) : ((d'.register (.forSelf host)).cached? other).isSome = true ↔
      (d'.cached? other).isSome = true ∨ sameText host other = true := by
    rw [cached?_register]
    by_cases h : sameText host other = true
    · simp [h, InstanceMetadata.hasAlias_forSelf.2 h]
    · simp [h, mt InstanceMetadata.hasAlias_forSelf.1 h]
  cases answer with
  | none =>
    cases validate with
    | true => simp [conclude, judge, registerAll]
    | false => simpa [conclude, judge, registerAll] using hself d
  | some r =>
    by_cases hrefused : (validate && r.tenantEndpoint.isNone) = true
    · obtain ⟨rfl, hnone⟩ := Bool.and_eq_true_iff.1 hrefused
      have hno : r.tenantEndpoint.isSome = false := by
        simpa using hnone
      simp [conclude, judge, hnone, hno, registerAll]
    · have hallowed : validate = true → r.tenantEndpoint.isSome = true := by
        intro hv
        simpa [hv, Option.isSome_iff_ne_none] using hrefused
      cases hlast : (r.metadata.filter (·.hasAlias host)).getLast? with
      | some m =>
        have hmentions : r.Mentions host := by
          obtain ⟨hm, halias⟩ := List.mem_filter.1 (List.mem_of_getLast? hlast)
          exact ⟨m, hm, halias⟩
        have hafter : (d.conclude host validate (some r)).2 = d.registerAll r.metadata := by
          simp [conclude, judge, hrefused, hlast]
        rw [hafter, cached?_registerAll_isSome_iff]
        constructor
        · rintro (hknown | hother)
          · exact .inl hknown
          · exact .inr (.inl ⟨r, rfl, hallowed, hother⟩)
        · rintro (hknown | ⟨_, hr, _, hother⟩ | ⟨_, _, hun⟩)
          · exact .inl hknown
          · cases hr
            exact .inr hother
          · exact absurd hmentions (hun r rfl)
      | none =>
        have hunmentioned : ¬ r.Mentions host := by
          rintro ⟨m, hm, halias⟩
          have hnil := List.filter_eq_nil_iff.1 (List.getLast?_eq_none_iff.1 hlast)
          exact hnil m hm halias
        cases validate with
        | true =>
          have hafter : (d.conclude host true (some r)).2 = d.registerAll r.metadata := by
            simp [conclude, judge, hrefused, hlast]
          rw [hafter, cached?_registerAll_isSome_iff]
          simp [hallowed rfl]
        | false =>
          have hafter : (d.conclude host false (some r)).2 =
              (d.registerAll r.metadata).register (.forSelf host) := by
            simp [conclude, judge, hlast]
          rw [hafter, hself, cached?_registerAll_isSome_iff]
          simp [hunmentioned, or_assoc]

/-- Where hosts have to be validated, a lookup succeeds exactly if there is an answer that names an
endpoint of the tenant and mentions the host. -/
theorem conclude_validated_isOk_iff {d : DiscoveryCache} {host : String}
    {answer : Option DiscoveryResponse} :
    (∃ m, (d.conclude host true answer).1 = .ok m) ↔
      ∃ r, answer = some r ∧ r.tenantEndpoint.isSome = true ∧ r.Mentions host := by
  cases answer with
  | none => simp [conclude, judge]
  | some r =>
    cases htenant : r.tenantEndpoint with
    | none => simp [conclude, judge, htenant]
    | some endpoint =>
      cases hlast : (r.metadata.filter (·.hasAlias host)).getLast? with
      | some m =>
        have hmentions : r.Mentions host := by
          obtain ⟨hm, halias⟩ := List.mem_filter.1 (List.mem_of_getLast? hlast)
          exact ⟨m, hm, halias⟩
        simp [conclude, judge, htenant, hlast, hmentions]
      | none =>
        have hunmentioned : ¬ r.Mentions host := by
          rintro ⟨m, hm, halias⟩
          have hnil := List.filter_eq_nil_iff.1 (List.getLast?_eq_none_iff.1 hlast)
          exact hnil m hm halias
        simp [conclude, judge, htenant, hlast, hunmentioned]

/-- A lookup fails only since the host is not trusted. -/
theorem conclude_eq_error {d : DiscoveryCache} {host : String} {validate : Bool}
    {answer : Option DiscoveryResponse} {e : Error}
    (h : (d.conclude host validate answer).1 = .error e) :
    ∃ source, e = .authorityNotTrusted host source := by
  unfold conclude at h
  rcases hjudge : judge host validate answer with ⟨registered, verdict⟩
  rw [hjudge] at h
  cases verdict with
  | ok m => cases h
  | error failure =>
    cases validate with
    | true =>
      cases h
      exact ⟨some failure, rfl⟩
    | false => cases h

/-- A lookup that succeeds leaves what it found in the map. -/
theorem cached?_conclude_of_eq_ok {d : DiscoveryCache} {host : String} {validate : Bool}
    {answer : Option DiscoveryResponse} {m : InstanceMetadata} {d' : DiscoveryCache}
    (h : d.conclude host validate answer = (.ok m, d')) : d'.cached? host = some m := by
  unfold conclude at h
  rcases hjudge : judge host validate answer with ⟨registered, verdict⟩
  rw [hjudge] at h
  dsimp only at h
  cases verdict with
  | ok found =>
    cases h
    unfold judge at hjudge
    cases answer with
    | none => cases hjudge
    | some r =>
      dsimp only at hjudge
      split at hjudge
      · cases hjudge
      · obtain ⟨rfl, hverdict⟩ := Prod.mk.inj hjudge
        cases hlast : (r.metadata.filter (·.hasAlias host)).getLast? with
        | none => simp [hlast] at hverdict
        | some last =>
          simp only [hlast, Option.elim_some, Except.ok.injEq] at hverdict
          rw [cached?_registerAll, hlast, hverdict, Option.some_or]
  | error failure =>
    dsimp only at h
    split at h
    · cases h
    · cases h
      have hself : (InstanceMetadata.forSelf host).hasAlias host = true :=
        InstanceMetadata.hasAlias_forSelf.2 (sameText_refl host)
      rw [cached?_register, if_pos hself]

end DiscoveryCache

end SilentAuth
