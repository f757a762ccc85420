import SilentAuth.Proofs.Discovery.Validation
import SilentAuth.Proofs.Silent.Tenants

/-!
# What the discovery endpoint is asked

A lookup asks at most one question, and only a trusted host is asked. Once a host is known, it stays
known, and no lookup of it asks again. A lookup that does not trust its host leaves it unknown, so
that the next one asks again.

* `HostLookup.question?`: the question of a lookup; `HostLookup.questions_perform`: there is no other.
* `HostLookup.cached?_final_isSome`: a host that is known stays known.
* `HostLookup.question?_isSome_of_error`: a host that is not trusted stays unknown.
* `HostLookup.asked_until_known`: all of this, at every point of a run.
-/

namespace SilentAuth

/-- A trusted host that is written in lower case is one of the list. -/
theorem mem_trustedHosts {host : String} (hlower : foldCase host = host)
    (h : isTrustedHost host = true) : host ∈ trustedHosts := by
  obtain ⟨other, hother, hsame⟩ := listed_iff.1 h
  have hlowerAll : ∀ other ∈ trustedHosts, foldCase other = other := by decide
  rw [hlowerAll other hother, hlower] at hsame
  exact hsame ▸ hother

namespace DiscoveryCache

variable {d : DiscoveryCache} {a : Authority}

/-- What it takes for the endpoint to be asked, and which host is asked. -/
theorem inquire_eq_ask_iff {question : DiscoveryRequest} :
    d.inquire a = .ask question ↔
      d.cached? a.host = none ∧ d.hasSource = true ∧ d.seeded = false ∧ a.kind = .aad ∧
        question = ⟨if isTrustedHost a.host then a.host else defaultTrustedHost,
          a.authorizeEndpoint⟩ := by
  unfold inquire
  cases hcached : d.cached? a.host with
  | some m => simp
  | none =>
    dsimp only
    split
    · rename_i hasks
      simp only [Bool.and_eq_true, beq_iff_eq, Bool.not_eq_true'] at hasks
      obtain ⟨⟨hsource, hkind⟩, hseeded⟩ := hasks
      simp only [hsource, hseeded, hkind, Inquiry.ask.injEq, true_and]
      exact eq_comm
    · rename_i hasks
      simp only [Bool.and_eq_true, beq_iff_eq, Bool.not_eq_true', not_and] at hasks
      simp only [reduceCtorEq, false_iff, not_and]
      intro _ hsource hseeded hkind
      exact absurd hseeded (hasks ⟨hsource, hkind⟩)

/-- A host that an answer does not vouch for stays unknown. -/
theorem cached?_conclude_of_eq_error {host : String} {validate : Bool}
    {answer : Option DiscoveryResponse} {e : Error} {d' : DiscoveryCache}
    (hunknown : d.cached? host = none) (h : d.conclude host validate answer = (.error e, d')) :
    d'.cached? host = none := by
  have hfailed : (d.conclude host validate answer).1 = .error e := congrArg Prod.fst h
  have hvalidate : validate = true := by
    unfold conclude at hfailed
    dsimp only at hfailed
    split at hfailed
    · cases hfailed
    · split at hfailed
      · assumption
      · cases hfailed
  subst hvalidate
  have hafter : d' = (d.conclude host true answer).2 := congrArg Prod.snd h.symm
  rw [← Option.not_isSome_iff_eq_none, hafter, cached?_conclude_isSome_iff]
  rintro (hknown | ⟨r, hr, htenant, hmentions⟩ | ⟨hfalse, _⟩)
  · rw [hunknown] at hknown
    cases hknown
  · obtain ⟨m, hm⟩ := (conclude_validated_isOk_iff (d := d)).2 ⟨r, hr, htenant rfl, hmentions⟩
    rw [hm] at hfailed
    cases hfailed
  · cases hfalse

end DiscoveryCache

namespace HostLookup

variable (services : Services)

/-! ### The question of a lookup -/

/-- The question that a lookup asks the endpoint, if it does. -/
def question? (s : Session) (l : HostLookup) : Option DiscoveryRequest :=
  match s.discovery.inquire l.authority with
  | .ask question => some question
  | .known _ | .alone => none

variable {s t : Session} {l : HostLookup} {host : String} {question : DiscoveryRequest}

/-- A lookup has a question exactly if the map says to ask. -/
theorem question?_eq_some_iff :
    l.question? s = some question ↔ s.discovery.inquire l.authority = .ask question := by
  unfold question?
  split <;> rename_i hinquire <;> simp [hinquire]

/-- A lookup asks its question and nothing else. -/
theorem questions_perform (s : Session) (l : HostLookup) :
    (l.perform services s).2.journal.questions =
      s.journal.questions ++ (l.question? s).toList := by
  unfold perform Action.resolve question?
  cases s.discovery.inquire l.authority with
  | known m => exact (List.append_nil _).symm
  | alone => exact (List.append_nil _).symm
  | ask question => rfl

/-- Only trusted hosts are asked. -/
theorem isTrustedHost_of_question? (h : l.question? s = some question) :
    isTrustedHost question.discoveryHost = true := by
  obtain ⟨_, _, _, _, rfl⟩ := DiscoveryCache.inquire_eq_ask_iff.1 (question?_eq_some_iff.1 h)
  dsimp only
  split
  · assumption
  · decide

/-- The host that is asked stands in the list of trusted hosts. -/
theorem mem_trustedHosts_of_question? (hnamed : l.authority.Named)
    (h : l.question? s = some question) : question.discoveryHost ∈ trustedHosts := by
  apply mem_trustedHosts _ (isTrustedHost_of_question? h)
  obtain ⟨_, _, _, _, rfl⟩ := DiscoveryCache.inquire_eq_ask_iff.1 (question?_eq_some_iff.1 h)
  dsimp only
  split
  · exact hnamed.foldCase_host
  · decide

/-! ### Hosts that are known -/

/-- A lookup of a host that is known changes nothing. -/
theorem perform_of_known (h : (s.discovery.cached? l.authority.host).isSome = true) :
    ∃ m, l.perform services s = (.ok m, s) := by
  obtain ⟨m, hm⟩ := Option.isSome_iff_exists.1 h
  exact ⟨m, Action.resolve_of_cached hm l.validate services⟩

/-- **Step.** A host that is known stays known. -/
theorem cached?_perform_isSome (l : HostLookup)
    (h : (s.discovery.cached? host).isSome = true) :
    ((l.perform services s).2.discovery.cached? host).isSome = true := by
  unfold perform Action.resolve
  cases s.discovery.inquire l.authority with
  | known m => exact h
  | alone =>
    dsimp only
    rw [DiscoveryCache.cached?_register]
    split
    · rfl
    · exact h
  | ask question => exact DiscoveryCache.cached?_conclude_isSome_iff.2 (.inl h)

/-- **Run.** A host that is known stays known, whatever is looked up. -/
theorem cached?_final_isSome (lookups : List HostLookup)
    (h : (s.discovery.cached? host).isSome = true) :
    ((final services s lookups).discovery.cached? host).isSome = true := by
  induction lookups generalizing s with
  | nil => exact h
  | cons l rest ih => exact ih (cached?_perform_isSome services l h)

/-! ### Hosts that are not trusted -/

/-- A lookup that fails asked the endpoint, and leaves its host unknown. -/
theorem unknown_of_error {e : Error} (h : l.perform services s = (.error e, t)) :
    (l.question? s).isSome = true ∧ t.discovery.cached? l.authority.host = none := by
  unfold perform Action.resolve at h
  cases hinquire : s.discovery.inquire l.authority with
  | known m =>
    rw [hinquire] at h
    cases h
  | alone =>
    rw [hinquire] at h
    cases h
  | ask question =>
    rw [hinquire] at h
    obtain ⟨hunknown, _⟩ := DiscoveryCache.inquire_eq_ask_iff.1 hinquire
    have hafter := Prod.mk.inj h
    refine ⟨by rw [question?_eq_some_iff.2 hinquire]; rfl, ?_⟩
    rw [← hafter.2]
    exact DiscoveryCache.cached?_conclude_of_eq_error hunknown (Prod.ext hafter.1 rfl)

/-- After a lookup that failed, the host is asked about again, unless a lookup in between makes it
known. -/
theorem question?_isSome_of_error {e : Error} (h : l.perform services s = (.error e, t))
    {between : List HostLookup}
    (hbetween : ∀ b ∈ trace services t between, ¬ b.2.Admits services b.1 l.authority.host)
    {again : HostLookup} (hkind : again.authority.kind = .aad)
    (hhost : sameText again.authority.host l.authority.host = true) :
    (again.question? (final services t between)).isSome = true := by
  obtain ⟨hasked, hunknown⟩ := unknown_of_error services h
  obtain ⟨question, hquestion⟩ := Option.isSome_iff_exists.1 hasked
  obtain ⟨_, hsource, hseeded, _⟩ :=
    DiscoveryCache.inquire_eq_ask_iff.1 (question?_eq_some_iff.1 hquestion)
  -- whom the map may ask has not changed since
  obtain ⟨hsource', hseeded'⟩ := perform_asks services s l
  rw [h, hsource] at hsource'
  rw [h, hseeded] at hseeded'
  obtain ⟨hsource'', hseeded''⟩ := final_asks services t between
  have hstill : (final services t between).discovery.cached? again.authority.host = none := by
    rw [DiscoveryCache.cached?_congr _ hhost, ← Option.not_isSome_iff_eq_none,
      cached?_final_isSome_iff services hsource' hseeded', hunknown]
    rintro (hnone | ⟨b, hb, hadmits⟩)
    · cases hnone
    · exact hbetween b hb hadmits
  have hasks := DiscoveryCache.inquire_eq_ask_iff.2
    ⟨hstill, hsource''.trans hsource', hseeded''.trans hseeded', hkind, rfl⟩
  rw [question?_eq_some_iff.2 hasks]
  rfl

/-! ### Every point of a run -/

/-- **Asked until known.** A session with any map of hosts, some lookups, and then one more. That one
asks at most one question, and one of the trusted hosts. If it succeeds, the map holds what it found
for its host. Whatever host is known by then, no lookup of it changes the session any more, so none
asks a question. If it fails, then since it does not trust its host, which is left unknown, and the
next lookup of the host of a directory asks again. -/
theorem asked_until_known (s : Session) (before : List HostLookup) (l : HostLookup) :
    let start := final services s before
    let result := (l.perform services start).1
    let ended := (l.perform services start).2
    (ended.journal.questions = start.journal.questions ++ (l.question? start).toList ∧
        ∀ question, l.question? start = some question →
          isTrustedHost question.discoveryHost = true ∧
            (l.authority.Named → question.discoveryHost ∈ trustedHosts)) ∧
      (∀ m, result = .ok m → ended.discovery.cached? l.authority.host = some m) ∧
      (∀ (after : List HostLookup) (later : HostLookup),
        (ended.discovery.cached? later.authority.host).isSome = true →
          later.question? (final services ended after) = none ∧
            ∃ m, later.perform services (final services ended after) =
              (.ok m, final services ended after)) ∧
      ∀ e, result = .error e →
        (∃ source, e = .authorityNotTrusted l.authority.host source) ∧
          ended.discovery.cached? l.authority.host = none ∧
          ∀ (between : List HostLookup) (again : HostLookup),
            (∀ b ∈ trace services ended between, ¬ b.2.Admits services b.1 l.authority.host) →
              again.authority.kind = .aad →
              sameText again.authority.host l.authority.host = true →
              (again.question? (final services ended between)).isSome = true := by
  intro start result ended
  have hrun : l.perform services start = (result, ended) := rfl
  refine ⟨⟨questions_perform services start l, ?_⟩, ?_, ?_, ?_⟩
  · intro question hquestion
    exact ⟨isTrustedHost_of_question? hquestion,
      fun hnamed => mem_trustedHosts_of_question? hnamed hquestion⟩
  · intro m hm
    rw [hm] at hrun
    exact Action.cached?_resolve_of_eq_ok hrun
  · intro after later hknown
    have hstill := cached?_final_isSome services after hknown
    refine ⟨?_, perform_of_known services hstill⟩
    cases hquestion : later.question? (final services ended after) with
    | none => rfl
    | some question =>
      obtain ⟨hunknown, _⟩ :=
        DiscoveryCache.inquire_eq_ask_iff.1 (question?_eq_some_iff.1 hquestion)
      rw [hunknown] at hstill
      cases hstill
  · intro e he
    rw [he] at hrun
    refine ⟨Action.resolve_eq_error hrun, (unknown_of_error services hrun).2, ?_⟩
    exact fun between again hbetween => question?_isSome_of_error services hrun hbetween

namespace Sample

/-- A lookup that validates. -/
def lookup : HostLookup := ⟨authority, true⟩

/-- The instance of the host, which has one more name. -/
def mirrored : InstanceMetadata :=
  ⟨"login.example.org", "sts.example.org", ["login.example.org", "sts.example.org"]⟩

/-- Services that answer from the second question on. -/
def waking : Services where
  discover n _ := if n = 0 then none else some ⟨some "https://login.example.org", [mirrored]⟩
  exchange := silent.exchange

/-- The session after the first question. -/
def asked : Session := (lookup.perform waking session).2

/-- The session after the second one. -/
def answered : Session := (lookup.perform waking asked).2

end Sample

/-- Without an answer a lookup that validates fails, leaves its host unknown, and asks again when it is
made again. If there is an answer then, the host is known, and no third lookup asks anything. -/
theorem asked_until_known_silent :
    ((Sample.lookup.perform Sample.waking Sample.session).1 =
        .error (.authorityNotTrusted "login.example.org" (some .request)) ∧
      Sample.asked.journal.questions.length = 1 ∧
      Sample.asked.discovery.cached? "login.example.org" = none ∧
      (Sample.lookup.question? Sample.asked).isSome = true) ∧
    (Sample.lookup.perform Sample.waking Sample.asked).1 = .ok Sample.mirrored ∧
      Sample.answered.journal.questions.length = 2 ∧
      Sample.answered.discovery.cached? "login.example.org" = some Sample.mirrored ∧
      Sample.lookup.question? Sample.answered = none ∧
      Sample.lookup.perform Sample.waking Sample.answered =
        (.ok Sample.mirrored, Sample.answered) := by
  have hfailed : (Sample.lookup.perform Sample.waking Sample.session).1 =
      .error (.authorityNotTrusted "login.example.org" (some .request)) := by rfl
  have hfound : (Sample.lookup.perform Sample.waking Sample.asked).1 = .ok Sample.mirrored := by rfl
  have hagain : (Sample.lookup.perform Sample.waking Sample.answered).1 = .ok Sample.mirrored := by
    rfl
  obtain ⟨⟨hquestions, _⟩, _, _, herror⟩ :=
    asked_until_known Sample.waking Sample.session [] Sample.lookup
  obtain ⟨_, hunknown, hasks⟩ := herror _ hfailed
  obtain ⟨⟨hquestions', _⟩, hok, hknown, _⟩ :=
    asked_until_known Sample.waking Sample.session [Sample.lookup] Sample.lookup
  have hcached := hok _ hfound
  obtain ⟨hsilent, m, hm⟩ := hknown [] Sample.lookup (Option.isSome_of_eq_some hcached)
  have hsame : m = Sample.mirrored :=
    Except.ok.inj ((congrArg Prod.fst hm).symm.trans hagain)
  refine ⟨⟨hfailed, (congrArg List.length hquestions).trans rfl, hunknown, ?_⟩, hfound,
    (congrArg List.length hquestions').trans rfl, hcached, hsilent, hsame ▸ hm⟩
  exact hasks [] Sample.lookup (List.forall_mem_nil _) rfl (sameText_refl _)

end HostLookup

end SilentAuth
