import SilentAuth.Proofs.Discovery.Interleaving
import SilentAuth.Proofs.Discovery.Partition

/-!
# Alias sets as classes of hosts

All entries that a map is given, in advance or in answers, agree on which hosts belong together. Then
the names of a host are the class of an equivalence: a host has its own name, and all hosts of an
instance have the same names. Hosts that were taken to be alone do not disturb this, since a host is
taken so only while no entry names it, and the first entry that does takes it over.

* `DiscoveryCache.Classes`: maps whose entries were told, or stand for a host that is alone.
* `DiscoveryCache.Classes.register`, `DiscoveryCache.Classes.registerAlone`: what registering keeps.
* `HostLookup.classes_perform`, `HostLookup.classes_final`: what a lookup and a run keep.
* `HostLookup.listed_aliasesFor_final`: the names of hosts after any run.
-/

namespace SilentAuth

namespace InstanceMetadata

variable {m m' : InstanceMetadata}

theorem SameNames.symm (h : m.SameNames m') : m'.SameNames m := fun host => (h host).symm

theorem Agrees.symm (h : m.Agrees m') : m'.Agrees m :=
  fun host h' hm => (h host hm h').symm

/-- Metadata names a host whatever the case in which it is written. -/
theorem hasAlias_congr {a b : String} (h : sameText a b = true) : m.hasAlias a = m.hasAlias b :=
  listed_congr h

/-- A host that is alone agrees with all metadata that does not name it. -/
theorem forSelf_agrees {host : String} (h : m.hasAlias host = false) : (forSelf host).Agrees m := by
  intro other hself hother
  rw [hasAlias_forSelf] at hself
  rw [← hasAlias_congr hself, h] at hother
  cases hother

end InstanceMetadata

namespace DiscoveryCache

/-! ### Maps of told entries and single hosts -/

/-- Every entry of a map was told, or stands for a host that is alone; alias sets are apart. -/
structure Classes (T : InstanceMetadata → Prop) (d : DiscoveryCache) : Prop where
  built : d.Built
  origin : ∀ host m, d.cached? host = some m → T m ∨ m = .forSelf host
  apart : d.Partitioned

variable {T : InstanceMetadata → Prop} {d : DiscoveryCache}

/-- A map without hosts has no classes that could be split. -/
theorem Built.classes (h : d.Built) (hempty : d.hosts = .empty) : d.Classes T := by
  have hnone : ∀ host, d.cached? host = none := by
    intro host
    rw [cached?, hempty, Dict.find?_empty]
  refine ⟨h, ?_, ?_⟩
  · intro host m hm
    rw [hnone] at hm
    cases hm
  · intro host _ m _ hm
    rw [hnone] at hm
    cases hm

/-- Alias sets stay apart if the new entry agrees with those that are left. -/
theorem Partitioned.register (h : d.Partitioned) {new : InstanceMetadata}
    (hnew : ∀ host m, new.hasAlias host = false → d.cached? host = some m → new.Agrees m) :
    (d.register new).Partitioned := by
  intro host host' m m' hm hm'
  rw [cached?_register] at hm hm'
  split at hm
  · cases hm
    split at hm'
    · cases hm'
      exact new.agrees_self
    · rename_i hother
      exact hnew host' m' (by simpa using hother) hm'
  · rename_i hother
    split at hm'
    · cases hm'
      exact (hnew host m (by simpa using hother) hm).symm
    · exact h host host' m m' hm hm'

/-- An entry that was told replaces those of all its hosts. -/
theorem Classes.register (h : d.Classes T) (hT : ∀ m m', T m → T m' → m.Agrees m')
    {new : InstanceMetadata} (hnew : T new) : (d.register new).Classes T := by
  refine ⟨h.built.register new, ?_, h.apart.register ?_⟩
  · intro host m hm
    rw [cached?_register] at hm
    split at hm
    · cases hm
      exact .inl hnew
    · exact h.origin host m hm
  · intro host m hother hm
    rcases h.origin host m hm with htold | rfl
    · exact hT new m hnew htold
    · exact (InstanceMetadata.forSelf_agrees hother).symm

/-- Taking a host to be alone, while no entry names it, splits no class. -/
theorem Classes.registerAlone (h : d.Classes T) {host : String}
    (hunknown : d.cached? host = none) : (d.register (.forSelf host)).Classes T := by
  refine ⟨h.built.register _, ?_, h.apart.register ?_⟩
  · intro other m hm
    rw [cached?_register] at hm
    split at hm
    · rename_i hsame
      cases hm
      exact .inr (InstanceMetadata.forSelf_congr (InstanceMetadata.hasAlias_forSelf.1 hsame))
    · exact h.origin other m hm
  · intro other m _ hm
    apply InstanceMetadata.forSelf_agrees
    cases hnamed : m.hasAlias host with
    | false => rfl
    | true =>
      -- all hosts that an entry names are known
      have hknown := h.built.sound.known other m hm host hnamed
      rw [hunknown] at hknown
      cases hknown

/-- The classes are kept when entries are registered that agree pairwise. -/
theorem Classes.registerAll (h : d.Classes T) (hT : ∀ m m', T m → T m' → m.Agrees m')
    {metadata : List InstanceMetadata} (hmetadata : ∀ m ∈ metadata, T m) :
    (d.registerAll metadata).Classes T := by
  induction metadata generalizing d with
  | nil => exact h
  | cons m rest ih =>
    exact ih (h.register hT (hmetadata m List.mem_cons_self)) fun m hm =>
      hmetadata m (List.mem_cons_of_mem _ hm)

/-- If an answer does not vouch for a host, then nothing that is registered names the host. -/
theorem hasAlias_of_judge_error {host : String} {validate : Bool}
    {answer : Option DiscoveryResponse} {registered : List InstanceMetadata}
    {failure : DiscoveryFailure} (h : judge host validate answer = (registered, .error failure)) :
    ∀ m ∈ registered, m.hasAlias host = false := by
  unfold judge at h
  split at h
  · cases h
    exact List.forall_mem_nil _
  · rename_i r
    split at h
    · cases h
      exact List.forall_mem_nil _
    · obtain ⟨rfl, hverdict⟩ := Prod.mk.inj h
      intro m hm
      cases hlast : (r.metadata.filter (·.hasAlias host)).getLast? with
      | some found =>
        rw [hlast] at hverdict
        cases hverdict
      | none =>
        have hnil := List.filter_eq_nil_iff.1 (List.getLast?_eq_none_iff.1 hlast)
        simpa using hnil m hm

/-- The entries that are registered come from the answer. -/
theorem mem_of_judge {host : String} {validate : Bool} {answer : Option DiscoveryResponse}
    {m : InstanceMetadata} (h : m ∈ (judge host validate answer).1) :
    ∃ r, answer = some r ∧ m ∈ r.metadata := by
  unfold judge at h
  split at h
  · cases h
  · rename_i r
    split at h
    · cases h
    · exact ⟨r, rfl, h⟩

/-- The end of a lookup of a host that was not known keeps the classes. -/
theorem Classes.conclude (h : d.Classes T) (hT : ∀ m m', T m → T m' → m.Agrees m')
    {host : String} (hunknown : d.cached? host = none) (validate : Bool)
    {answer : Option DiscoveryResponse}
    (hanswer : ∀ r, answer = some r → ∀ m ∈ r.metadata, T m) :
    (d.conclude host validate answer).2.Classes T := by
  have htold : ∀ m ∈ (judge host validate answer).1, T m := by
    intro m hm
    obtain ⟨r, hr, hmem⟩ := mem_of_judge hm
    exact hanswer r hr m hmem
  unfold DiscoveryCache.conclude
  rcases hjudge : judge host validate answer with ⟨registered, verdict⟩
  rw [hjudge] at htold
  have hall := h.registerAll hT htold
  dsimp only
  split
  · exact hall
  · split
    · exact hall
    · refine hall.registerAlone ?_
      have hnone := hasAlias_of_judge_error hjudge
      rw [cached?_registerAll, hunknown, Option.or_none, List.getLast?_eq_none_iff,
        List.filter_eq_nil_iff]
      intro m hm
      rw [hnone m hm]
      exact Bool.false_ne_true

/-! ### Names of hosts -/

/-- A host goes by its own name. -/
theorem Sound.listed_aliasesFor_self (h : d.Sound) (host : String) :
    listed host (d.aliasesFor host) = true := by
  unfold aliasesFor
  cases hfound : d.cached? host with
  | none => simp [listed_iff]
  | some m => exact h.named host m hfound

/-- Two hosts of which one goes by the name of the other go by the same names. -/
theorem Classes.listed_aliasesFor (h : d.Classes T) {a b : String}
    (hb : listed b (d.aliasesFor a) = true) (name : String) :
    listed name (d.aliasesFor b) = listed name (d.aliasesFor a) := by
  cases hfound : d.cached? a with
  | none =>
    -- a host that is not known has no other name, so this is the same host
    have hsame : sameText a b = true := by
      simpa [aliasesFor, hfound, listed_iff] using hb
    have hnone : d.cached? b = none := (d.cached?_congr hsame) ▸ hfound
    rw [aliasesFor, aliasesFor, hfound, hnone, Option.elim_none, Option.elim_none,
      sameText_iff.1 hsame]
  | some m =>
    have ha : d.aliasesFor a = m.aliases := by
      rw [aliasesFor, hfound, Option.elim_some]
    rw [ha] at hb ⊢
    exact h.built.listed_aliasesFor h.apart hfound hb name

end DiscoveryCache

namespace HostLookup

variable (services : Services)

/-- An entry stands in an answer that a run receives. -/
def ToldIn (s : Session) (lookups : List HostLookup) (m : InstanceMetadata) : Prop :=
  ∃ e ∈ trace services s lookups, ∃ r, e.2.received? services e.1 = some r ∧ m ∈ r.metadata

variable {T : InstanceMetadata → Prop} {s : Session}

/-- **Step.** A lookup keeps the classes if the answer that it receives agrees with them. -/
theorem classes_perform (hT : ∀ m m', T m → T m' → m.Agrees m') (h : s.discovery.Classes T)
    {l : HostLookup}
    (hanswer : ∀ r, l.received? services s = some r → ∀ m ∈ r.metadata, T m) :
    (l.perform services s).2.discovery.Classes T := by
  have hunknown : (∀ m, s.discovery.inquire l.authority ≠ .known m) →
      s.discovery.cached? l.authority.host = none := by
    intro hnot
    cases hcached : s.discovery.cached? l.authority.host with
    | none => rfl
    | some m => exact absurd (by rw [DiscoveryCache.inquire, hcached]) (hnot m)
  unfold received? at hanswer
  unfold perform Action.resolve
  cases hinquire : s.discovery.inquire l.authority with
  | known m => exact h
  | alone =>
    apply h.registerAlone
    apply hunknown
    intro m hm
    rw [hinquire] at hm
    cases hm
  | ask question =>
    rw [hinquire] at hanswer
    refine h.conclude hT (hunknown ?_) l.validate hanswer
    intro m hm
    rw [hinquire] at hm
    cases hm

/-- **Run.** Lookups keep the classes if all answers that they receive agree with them. -/
theorem classes_final (hT : ∀ m m', T m → T m' → m.Agrees m') (h : s.discovery.Classes T)
    {lookups : List HostLookup} (htold : ∀ m, ToldIn services s lookups m → T m) :
    (final services s lookups).discovery.Classes T := by
  induction lookups generalizing s with
  | nil => exact h
  | cons l rest ih =>
    apply ih
    · apply classes_perform services hT h
      exact fun r hr m hm => htold m ⟨(s, l), List.mem_cons_self, r, hr, hm⟩
    · rintro m ⟨e, he, hm⟩
      exact htold m ⟨e, List.mem_cons_of_mem _ he, hm⟩

/-- **Alias sets are classes.** A map is given some entries in advance, or none, and any lookups
follow. If all these entries and those of all answers have the same names or none in common, then a
host goes by its own name, and two hosts of which one goes by the name of the other go by the same
names, whatever hosts were taken to be alone in between. -/
theorem listed_aliasesFor_final {seeds : List InstanceMetadata}
    (hstart : s.discovery = .ofMetadata seeds ∨
      seeds = [] ∧ (s.discovery = .asking ∨ s.discovery = .offline))
    {lookups : List HostLookup}
    (hagree : ∀ m m', (m ∈ seeds ∨ ToldIn services s lookups m) →
      (m' ∈ seeds ∨ ToldIn services s lookups m') → m.Agrees m') :
    let d := (final services s lookups).discovery
    (∀ a, listed a (d.aliasesFor a) = true) ∧
      ∀ a b, listed b (d.aliasesFor a) = true →
        ∀ name, listed name (d.aliasesFor b) = listed name (d.aliasesFor a) := by
  intro d
  have hclasses : s.discovery.Classes fun m => m ∈ seeds ∨ ToldIn services s lookups m := by
    rcases hstart with hseeded | ⟨_, hasking | hoffline⟩
    · rw [hseeded]
      exact (DiscoveryCache.Built.seeded.classes rfl).registerAll hagree fun m hm => .inl hm
    · rw [hasking]
      exact DiscoveryCache.Built.asking.classes rfl
    · rw [hoffline]
      exact DiscoveryCache.Built.offline.classes rfl
  have hd : d.Classes _ := classes_final services hagree hclasses fun m hm => .inr hm
  exact ⟨hd.built.sound.listed_aliasesFor_self, fun a b hb => hd.listed_aliasesFor hb⟩

/-! ### A host that was taken to be alone -/

namespace Sample

/-- An endpoint that fails at first, and then answers that two hosts belong together. -/
def recovering : Services :=
  ⟨fun asked _ => if asked = 0 then none else some LookupGroup.Sample.answer,
    fun _ _ => ⟨.error .unspecified, none, ⟨0⟩⟩⟩

/-- A host is taken to be alone, and then the other one is looked up. -/
def lookups : List HostLookup :=
  [⟨authority, false⟩, ⟨{ authority with host := "login.example.net" }, true⟩]

/-- The only entry that is told is that of the answer. -/
theorem eq_known_of_toldIn {m : InstanceMetadata} (h : ToldIn recovering session lookups m) :
    m = LookupGroup.Sample.known := by
  obtain ⟨e, he, r, hr, hm⟩ := h
  have hanswer : r = LookupGroup.Sample.answer := by
    unfold received? at hr
    split at hr
    · change (if _ then none else some LookupGroup.Sample.answer) = some r at hr
      split at hr
      · cases hr
      · exact (Option.some.inj hr).symm
    · cases hr
    · cases hr
  subst hanswer
  exact List.mem_singleton.1 hm

end Sample

/-- The host that was taken to be alone goes by both names once the other one is looked up. -/
theorem listed_aliasesFor_final_recovered :
    let s := Sample.session
    let d := (final Sample.recovering s Sample.lookups).discovery
    (s.discovery = .ofMetadata [] ∨
        ([] : List InstanceMetadata) = [] ∧ (s.discovery = .asking ∨ s.discovery = .offline)) ∧
      (∀ m m', (m ∈ [] ∨ ToldIn Sample.recovering s Sample.lookups m) →
        (m' ∈ [] ∨ ToldIn Sample.recovering s Sample.lookups m') → m.Agrees m') ∧
      (final Sample.recovering s (Sample.lookups.take 1)).discovery.aliasesFor
        "login.example.org" = ["login.example.org"] ∧
      listed "login.example.org" (d.aliasesFor "login.example.net") = true ∧
      ∀ name, listed name (d.aliasesFor "login.example.org") =
        listed name (d.aliasesFor "login.example.net") := by
  intro s d
  have hstart : s.discovery = .ofMetadata [] ∨
      ([] : List InstanceMetadata) = [] ∧ (s.discovery = .asking ∨ s.discovery = .offline) :=
    .inr ⟨rfl, .inl rfl⟩
  have hagree : ∀ m m', (m ∈ [] ∨ ToldIn Sample.recovering s Sample.lookups m) →
      (m' ∈ [] ∨ ToldIn Sample.recovering s Sample.lookups m') → m.Agrees m' := by
    rintro m m' (hm | hm) (hm' | hm')
    · cases hm
    · cases hm
    · cases hm'
    · rw [Sample.eq_known_of_toldIn hm, Sample.eq_known_of_toldIn hm']
      exact LookupGroup.Sample.known.agrees_self
  have hlisted : listed "login.example.org" (d.aliasesFor "login.example.net") = true := by
    decide +kernel
  exact ⟨hstart, hagree, by rfl, hlisted,
    (listed_aliasesFor_final Sample.recovering hstart hagree).2 _ _ hlisted⟩

end HostLookup

end SilentAuth
