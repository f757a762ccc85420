import SilentAuth.Proofs.Discovery.Runs

/-!
# Maps whose alias sets are apart

A map of hosts starts without hosts, and registering is all that ever happens to it. So whatever is
found for a host names that host, and all other hosts that it names are found as well. They may be
found with other names, though: an entry that was registered later may have taken some of the hosts
of an earlier one. In a map whose alias sets are apart they are not, and it makes no difference under
which of its names an instance is looked up.

* `DiscoveryCache.Built`: the maps that come about; `Action.built_resolve`: lookups lead to no
  others.
* `DiscoveryCache.Built.sound`: what an entry of such a map says.
* `DiscoveryCache.Partitioned`: alias sets that are apart.
* `DiscoveryCache.Built.listed_aliasesFor`: the alias set of an instance, under each of its names.
-/

namespace SilentAuth

namespace DiscoveryCache

/-! ### Maps that come about -/

/-- The maps that come about: they start without hosts, and metadata is registered. -/
inductive Built : DiscoveryCache → Prop
  | asking : Built .asking
  | offline : Built .offline
  | seeded : Built (.ofMetadata [])
  | register {d : DiscoveryCache} (m : InstanceMetadata) : Built d → Built (d.register m)

variable {d : DiscoveryCache}

/-- A map that is built stays so when the entries of an answer are registered. -/
theorem Built.registerAll (h : d.Built) (metadata : List InstanceMetadata) :
    (d.registerAll metadata).Built := by
  induction metadata generalizing d with
  | nil => exact h
  | cons m rest ih => exact ih (h.register m)

/-- Maps that are given in advance come about in the same way. -/
theorem built_ofMetadata (metadata : List InstanceMetadata) : (ofMetadata metadata).Built :=
  Built.seeded.registerAll metadata

/-- A map that is built stays so when a lookup is concluded. -/
theorem Built.conclude (h : d.Built) (host : String) (validate : Bool)
    (answer : Option DiscoveryResponse) : (d.conclude host validate answer).2.Built := by
  unfold DiscoveryCache.conclude
  rcases judge host validate answer with ⟨registered, verdict⟩
  dsimp only
  split
  · exact h.registerAll registered
  · split
    · exact h.registerAll registered
    · exact (h.registerAll registered).register _

/-- What is found for a host names the host, and each host that it names is found. -/
structure Sound (d : DiscoveryCache) : Prop where
  named : ∀ host m, d.cached? host = some m → m.hasAlias host = true
  known : ∀ host m, d.cached? host = some m → ∀ other, m.hasAlias other = true →
    (d.cached? other).isSome = true

/-- A map in which no host is known is sound. -/
theorem sound_of_hosts_eq_empty (h : d.hosts = .empty) : d.Sound := by
  have hnone : ∀ host, d.cached? host = none := by
    intro host
    rw [cached?, h, Dict.find?_empty]
  constructor
  · intro host m hm
    rw [hnone] at hm
    cases hm
  · intro host m hm
    rw [hnone] at hm
    cases hm

/-- Registering finds the new entry under its own names, and takes no host away. -/
theorem Sound.register (h : d.Sound) (new : InstanceMetadata) : (d.register new).Sound := by
  constructor
  · intro host m hm
    rw [cached?_register] at hm
    split at hm
    · rename_i hnamed
      cases hm
      exact hnamed
    · exact h.named host m hm
  · intro host m hm other hother
    rw [cached?_register] at hm ⊢
    split
    · rfl
    · rename_i hnot
      split at hm
      · cases hm
        exact absurd hother hnot
      · exact h.known host m hm other hother

/-- Every map that comes about is sound. -/
theorem Built.sound (h : d.Built) : d.Sound := by
  induction h with
  | asking => exact sound_of_hosts_eq_empty rfl
  | offline => exact sound_of_hosts_eq_empty rfl
  | seeded => exact sound_of_hosts_eq_empty rfl
  | register m _ ih => exact ih.register m

/-! ### Alias sets that are apart -/

/-- Any two entries of a map have the same alias set, or alias sets without a common host. -/
def Partitioned (d : DiscoveryCache) : Prop :=
  ∀ host host' m m', d.cached? host = some m → d.cached? host' = some m' → m.Agrees m'

/-- A host that an entry names has the names that the entry says, if alias sets are apart. -/
theorem Built.listed_aliasesFor (h : d.Built) (hd : d.Partitioned) {host other : String}
    {m : InstanceMetadata} (hm : d.cached? host = some m) (hother : m.hasAlias other = true)
    (name : String) : listed name (d.aliasesFor other) = listed name m.aliases := by
  obtain ⟨found, hfound⟩ := Option.isSome_iff_exists.1 (h.sound.known host m hm other hother)
  have hnamed : found.hasAlias other = true := h.sound.named other found hfound
  have hsame : found.SameNames m := hd other host found m hfound hm other hnamed hother
  rw [aliasesFor, hfound, Option.elim_some]
  exact hsame name

end DiscoveryCache

/-- Lookups keep to the maps that come about. -/
theorem Action.built_resolve {a : Authority} {validate : Bool} {services : Services} {s : Session}
    (h : s.discovery.Built) : (resolve a validate services s).2.discovery.Built := by
  unfold resolve
  split
  · exact h
  · exact h.register _
  · exact h.conclude _ _ _

end SilentAuth
