import Mathlib.Logic.Function.Basic
import SilentAuth.Proofs.Discovery.Validation

/-!
# Lookups that share one map

Several lookups work on one map of hosts. Each looks into the map, waits for the endpoint and
registers what it got, entry by entry, and the others may take any steps in between. If all answers
agree on which hosts belong together, an answer that comes late does no harm. But a lookup that does
not validate registers its host alone when its question fails, without another look into the map.

* `LookupGroup.step`, `LookupGroup.run`: the steps of all lookups, in any order.
* `LookupGroup.run_undisturbed`: without others, the steps of a lookup are a lookup.
* `LookupGroup.mayAssume_of_mem_registered`: who can still assume that a known host is alone.
* `LookupGroup.aliases_kept_iff`: when a host keeps the names that an answer gave it.
* `LookupGroup.aliases_forgotten`: a host that an answer named with others, and that ends up alone.
-/

namespace SilentAuth

/-! ### The registrations of a lookup -/

/-- What a lookup registers. -/
inductive Registration where
  /-- An entry of the answer. -/
  | told (m : InstanceMetadata)
  /-- That the host has only its own name, of which the endpoint knows nothing. -/
  | assumed

/-- What is stored for a lookup of a host. -/
def Registration.metadata (host : String) : Registration → InstanceMetadata
  | told m => m
  | assumed => .forSelf host

/-- How far a lookup has come. -/
inductive Progress where
  /-- It has not begun. -/
  | idle
  /-- The endpoint was asked, and has not answered yet. -/
  | asking
  /-- All that is left is to register a list of metadata; what the lookup finds is settled. -/
  | settled (rest : List Registration) (found : Except Error InstanceMetadata)

namespace HostLookup

/-- A lookup that has looked into the map. -/
def begin (l : HostLookup) (d : DiscoveryCache) : Progress :=
  match d.inquire l.authority with
  | .known m => .settled [] (.ok m)
  | .alone => .settled [.assumed] (.ok (.forSelf l.authority.host))
  | .ask _ => .asking

/-- What a lookup registers, and what it finds, once the answer is in, or the question failed. -/
def settle (l : HostLookup) (answer : Option DiscoveryResponse) :
    List Registration × Except Error InstanceMetadata :=
  let (listed, verdict) := DiscoveryCache.judge l.authority.host l.validate answer
  match verdict with
  | .ok m => (listed.map .told, .ok m)
  | .error failure =>
    if l.validate then
      (listed.map .told, .error (.authorityNotTrusted l.authority.host (some failure)))
    else (listed.map .told ++ [.assumed], .ok (.forSelf l.authority.host))

variable {l : HostLookup} {answer : Option DiscoveryResponse}

/-- An entry that a lookup is told is one of the answer. -/
theorem told_mem_settle {m : InstanceMetadata} (h : .told m ∈ (l.settle answer).1) :
    ∃ r, answer = some r ∧ m ∈ r.metadata := by
  have hjudge : m ∈ (DiscoveryCache.judge l.authority.host l.validate answer).1 := by
    unfold settle at h
    dsimp only at h
    split at h
    · simpa using h
    · split at h <;> simpa using h
  unfold DiscoveryCache.judge at hjudge
  split at hjudge
  · simp at hjudge
  · rename_i r
    split at hjudge
    · simp at hjudge
    · exact ⟨r, rfl, hjudge⟩

/-- A lookup that validates assumes nothing. -/
theorem validate_of_assumed_mem_settle (h : .assumed ∈ (l.settle answer).1) :
    l.validate = false := by
  unfold settle at h
  dsimp only at h
  split at h
  · simp at h
  · split at h
    · simp at h
    · simpa using ‹¬l.validate = true›

/-- An answer ends a lookup as one that registers what was settled. -/
theorem conclude_eq_settle (d : DiscoveryCache) (l : HostLookup)
    (answer : Option DiscoveryResponse) :
    d.conclude l.authority.host l.validate answer =
      ((l.settle answer).2,
        d.registerAll ((l.settle answer).1.map (·.metadata l.authority.host))) := by
  have htold (listed : List InstanceMetadata) :
      (listed.map Registration.told).map (·.metadata l.authority.host) = listed := by
    rw [List.map_map]
    exact List.map_id listed
  unfold DiscoveryCache.conclude settle
  rcases DiscoveryCache.judge l.authority.host l.validate answer with ⟨listed, verdict⟩
  cases verdict with
  | ok m =>
    dsimp only
    rw [htold]
  | error failure =>
    dsimp only
    split
    · rw [htold]
    · rw [List.map_append, htold, DiscoveryCache.registerAll, DiscoveryCache.registerAll,
        List.foldl_append]
      rfl

end HostLookup

/-! ### Lookups side by side -/

/-- A map with the lookups that share it. -/
structure LookupGroup (ι : Type) where
  map : DiscoveryCache
  /-- How far each of the lookups has come. -/
  progress : ι → Progress

namespace LookupGroup

variable {ι : Type}

/-- A map on which no lookup has begun. -/
def start (d : DiscoveryCache) : LookupGroup ι := ⟨d, fun _ => .idle⟩

/-- A step of one of the lookups. -/
inductive Move (ι : Type) where
  /-- It looks into the map. -/
  | check (i : ι)
  /-- Its question is answered, or fails. -/
  | answer (i : ι) (answer : Option DiscoveryResponse)
  /-- It registers what is next. -/
  | register (i : ι)

variable [DecidableEq ι] (lookups : ι → HostLookup)

/-- The map and the lookups after a step. A step for which it is not the time changes nothing. -/
def step (g : LookupGroup ι) : Move ι → LookupGroup ι
  | .check i =>
    match g.progress i with
    | .idle => { g with progress := Function.update g.progress i ((lookups i).begin g.map) }
    | _ => g
  | .answer i answer =>
    match g.progress i with
    | .asking =>
      let (rest, found) := (lookups i).settle answer
      { g with progress := Function.update g.progress i (.settled rest found) }
    | _ => g
  | .register i =>
    match g.progress i with
    | .settled (r :: rest) found =>
      ⟨g.map.register (r.metadata (lookups i).authority.host),
        Function.update g.progress i (.settled rest found)⟩
    | _ => g

/-- The map and the lookups after some steps. -/
def run (g : LookupGroup ι) (moves : List (Move ι)) : LookupGroup ι :=
  moves.foldl (step lookups) g

omit [DecidableEq ι] in
/-- What a step registers, and for which lookup. -/
def registers? (g : LookupGroup ι) : Move ι → Option (ι × Registration)
  | .register i =>
    match g.progress i with
    | .settled (r :: _) _ => some (i, r)
    | _ => none
  | _ => none

/-- What some steps register, in order. -/
def registered (g : LookupGroup ι) : List (Move ι) → List (ι × Registration)
  | [] => []
  | move :: rest => (g.registers? move).toList ++ registered (g.step lookups move) rest

/-- What is stored for a registration. -/
def stored (e : ι × Registration) : InstanceMetadata := e.2.metadata (lookups e.1).authority.host

/-- The last registration of some steps that names a host. -/
def lastOn (g : LookupGroup ι) (host : String) (moves : List (Move ι)) :
    Option (ι × Registration) :=
  ((g.registered lookups moves).filter fun e => (stored lookups e).hasAlias host).getLast?

/-- An answer in some steps has an entry. -/
def ToldIn (moves : List (Move ι)) (m : InstanceMetadata) : Prop :=
  ∃ i r, .answer i (some r) ∈ moves ∧ m ∈ r.metadata

/-- A lookup of a host is beyond its look into the map, and does not validate: it can still register
that the host is alone. -/
def MayAssume (g : LookupGroup ι) (i : ι) (host : String) : Prop :=
  sameText (lookups i).authority.host host = true ∧
    (g.progress i = .asking ∧ (lookups i).validate = false ∨
      ∃ rest found, g.progress i = .settled rest found ∧ .assumed ∈ rest)

omit [DecidableEq ι] in
/-- What is told in some moves is told in more moves. -/
theorem ToldIn.mono {moves moves' : List (Move ι)} {m : InstanceMetadata} (h : ToldIn moves m)
    (hsubset : moves ⊆ moves') : ToldIn moves' m := by
  obtain ⟨i, r, hmove, hm⟩ := h
  exact ⟨i, r, hsubset hmove, hm⟩

variable {lookups} {g : LookupGroup ι} {i : ι} {host : String}

/-- Moves in a row are made one after the other. -/
theorem run_append (g : LookupGroup ι) (before after : List (Move ι)) :
    g.run lookups (before ++ after) = (g.run lookups before).run lookups after :=
  List.foldl_append

/-! ### Steps -/

/-- A lookup that is idle begins with a look into the map. -/
theorem step_check (h : g.progress i = .idle) : g.step lookups (.check i) =
    { g with progress := Function.update g.progress i ((lookups i).begin g.map) } := by
  rw [step, h]

/-- A lookup that is asking settles on what the answer says. -/
theorem step_answer (h : g.progress i = .asking) (answer : Option DiscoveryResponse) :
    g.step lookups (.answer i answer) =
      { g with
        progress := Function.update g.progress i
          (.settled ((lookups i).settle answer).1 ((lookups i).settle answer).2) } := by
  rw [step, h]

/-- An answer counts only for a lookup that waits for it. -/
theorem step_answer_of_settled {rest : List Registration} {found : Except Error InstanceMetadata}
    (h : g.progress i = .settled rest found) (answer : Option DiscoveryResponse) :
    g.step lookups (.answer i answer) = g := by
  rw [step, h]

/-- A lookup that has settled registers what is next. -/
theorem step_register {r : Registration} {rest : List Registration}
    {found : Except Error InstanceMetadata} (h : g.progress i = .settled (r :: rest) found) :
    g.step lookups (.register i) =
      ⟨g.map.register (stored lookups (i, r)),
        Function.update g.progress i (.settled rest found)⟩ := by
  rw [step, h]
  rfl

/-! ### One lookup without others -/

/-- Registering step by step is registering all. -/
theorem run_register {rest : List Registration} {found : Except Error InstanceMetadata}
    (h : g.progress i = .settled rest found) :
    g.run lookups (List.replicate rest.length (.register i)) =
      ⟨g.map.registerAll (rest.map (·.metadata (lookups i).authority.host)),
        Function.update g.progress i (.settled [] found)⟩ := by
  induction rest generalizing g with
  | nil =>
    rw [← h, Function.update_eq_self]
    rfl
  | cons r rest ih =>
    have hprogress : (g.step lookups (.register i)).progress i = .settled rest found := by
      rw [step_register h]
      exact Function.update_self i _ _
    have hrest := ih hprogress
    rw [step_register h, Function.update_idem] at hrest
    rw [List.length_cons, List.replicate_succ, run, List.foldl_cons, step_register h]
    exact hrest

/-- When the answer is in, it is settled what a lookup without others finds and registers. -/
theorem step_check_step_answer (hidle : g.progress i = .idle)
    (answer : Option DiscoveryResponse) :
    ∃ rest : List Registration,
      let whole := g.map.resolve (lookups i).authority (lookups i).validate answer
      (g.step lookups (.check i)).step lookups (.answer i answer) =
          { g with progress := Function.update g.progress i (.settled rest whole.1) } ∧
        g.map.registerAll (rest.map (·.metadata (lookups i).authority.host)) = whole.2 := by
  rw [step_check hidle]
  have hself (p : Progress) : Function.update g.progress i p i = p := Function.update_self i _ _
  unfold HostLookup.begin DiscoveryCache.resolve
  cases hinquire : g.map.inquire (lookups i).authority with
  | known m =>
    refine ⟨[], ?_, rfl⟩
    rw [step_answer_of_settled (hself _)]
  | alone =>
    refine ⟨[.assumed], ?_, rfl⟩
    rw [step_answer_of_settled (hself _)]
  | ask question =>
    refine ⟨((lookups i).settle answer).1, ?_, ?_⟩
    · rw [step_answer (hself _), HostLookup.conclude_eq_settle, Function.update_idem]
    · rw [HostLookup.conclude_eq_settle]

/-- Without others, the steps of a lookup are a lookup: they find what it finds, and leave the map as
it leaves it. -/
theorem run_undisturbed (hidle : g.progress i = .idle) (answer : Option DiscoveryResponse) :
    ∃ count : Nat,
      let whole := g.map.resolve (lookups i).authority (lookups i).validate answer
      g.run lookups (.check i :: .answer i answer :: List.replicate count (.register i)) =
        ⟨whole.2, Function.update g.progress i (.settled [] whole.1)⟩ := by
  obtain ⟨rest, hsettled, hmap⟩ := @step_check_step_answer _ _ lookups g i hidle answer
  refine ⟨rest.length, ?_⟩
  dsimp only at hsettled hmap ⊢
  rw [run, List.foldl_cons, List.foldl_cons, hsettled, ← run,
    run_register (Function.update_self i _ _), Function.update_idem, hmap]

/-! ### What is registered -/

omit [DecidableEq ι] in
/-- A move that registers something is one of a lookup that has settled, and it is what was
next. -/
theorem registers?_eq_some {move : Move ι} {e : ι × Registration}
    (h : g.registers? move = some e) :
    move = .register e.1 ∧ ∃ rest found, g.progress e.1 = .settled (e.2 :: rest) found := by
  unfold registers? at h
  split at h
  · rename_i j
    split at h
    · rename_i r rest found hprogress
      cases h
      exact ⟨rfl, rest, found, hprogress⟩
    · cases h
  · cases h

/-- The map after a step has what the step registered. -/
theorem map_step (g : LookupGroup ι) (move : Move ι) :
    (g.step lookups move).map =
      g.map.registerAll ((g.registers? move).toList.map (stored lookups)) := by
  cases move with
  | check i =>
    unfold step
    dsimp only
    split <;> rfl
  | answer i answer =>
    unfold step
    dsimp only
    split <;> rfl
  | register i =>
    unfold step registers?
    dsimp only
    split <;> rfl

/-- The map has what was registered, in order. -/
theorem map_run (g : LookupGroup ι) (moves : List (Move ι)) :
    (g.run lookups moves).map =
      g.map.registerAll ((g.registered lookups moves).map (stored lookups)) := by
  induction moves generalizing g with
  | nil => rfl
  | cons move rest ih =>
    rw [run, List.foldl_cons, ← run, ih, map_step, registered, List.map_append,
      DiscoveryCache.registerAll, DiscoveryCache.registerAll, DiscoveryCache.registerAll,
      List.foldl_append]

/-- The last registration that names a host is what is found there. -/
theorem cached?_run (g : LookupGroup ι) (host : String) (moves : List (Move ι)) :
    (g.run lookups moves).map.cached? host =
      ((g.lastOn lookups host moves).map (stored lookups)).or (g.map.cached? host) := by
  rw [map_run, DiscoveryCache.cached?_registerAll, List.filter_map, List.getLast?_map]
  rfl

/-- The last registration on a host is one of the run, and names the host. -/
theorem mem_registered_of_lastOn {moves : List (Move ι)} {e : ι × Registration}
    (h : g.lastOn lookups host moves = some e) :
    e ∈ g.registered lookups moves ∧ (stored lookups e).hasAlias host = true :=
  List.mem_filter.1 (List.mem_of_getLast? h)

/-! ### What a step does to a lookup -/

/-- A step leaves a lookup where it was, or it is one of its own: the look into the map, the answer
that it waited for, or its next registration. -/
theorem progress_step_cases (g : LookupGroup ι) (move : Move ι) (i : ι) :
    (g.step lookups move).progress i = g.progress i ∨
      (g.progress i = .idle ∧
        (g.step lookups move).progress i = (lookups i).begin g.map) ∨
      (∃ answer, move = .answer i answer ∧ g.progress i = .asking ∧
        (g.step lookups move).progress i =
          .settled ((lookups i).settle answer).1 ((lookups i).settle answer).2) ∨
      ∃ r rest found, g.progress i = .settled (r :: rest) found ∧
        (g.step lookups move).progress i = .settled rest found := by
  have hother {j : ι} (hij : i ≠ j) (p : Progress) :
      Function.update g.progress j p i = g.progress i :=
    Function.update_of_ne hij p g.progress
  have hself (p : Progress) : Function.update g.progress i p i = p :=
    Function.update_self i p g.progress
  cases move with
  | check j =>
    unfold step
    dsimp only
    split
    · rename_i hidle
      by_cases hij : i = j
      · subst hij
        exact .inr (.inl ⟨hidle, hself _⟩)
      · exact .inl (hother hij _)
    · exact .inl rfl
  | answer j answer =>
    unfold step
    dsimp only
    split
    · rename_i hasking
      by_cases hij : i = j
      · subst hij
        exact .inr (.inr (.inl ⟨answer, rfl, hasking, hself _⟩))
      · exact .inl (hother hij _)
    · exact .inl rfl
  | register j =>
    unfold step
    dsimp only
    split
    · rename_i r rest found hsettled
      by_cases hij : i = j
      · subst hij
        exact .inr (.inr (.inr ⟨r, rest, found, hsettled, hself _⟩))
      · exact .inl (hother hij _)
    · exact .inl rfl

/-! ### Entries of answers -/

omit [DecidableEq ι] in
/-- All entries of answers that are still to be registered satisfy a condition. -/
def Tells (g : LookupGroup ι) (T : InstanceMetadata → Prop) : Prop :=
  ∀ i rest found m, g.progress i = .settled rest found → .told m ∈ rest → T m

omit [DecidableEq ι] in
/-- At the start nothing was told to any lookup. -/
theorem tells_start (d : DiscoveryCache) (T : InstanceMetadata → Prop) :
    (start d : LookupGroup ι).Tells T := by
  intro i rest found m h
  cases h

omit [DecidableEq ι] in
/-- A lookup that begins has no entries of answers. -/
theorem told_notMem_begin {l : HostLookup} {d : DiscoveryCache} {rest : List Registration}
    {found : Except Error InstanceMetadata} (h : l.begin d = .settled rest found)
    (m : InstanceMetadata) : .told m ∉ rest := by
  unfold HostLookup.begin at h
  split at h <;> cases h <;> simp

/-- A move tells no lookup more than the answers say. -/
theorem Tells.step {T : InstanceMetadata → Prop} (h : g.Tells T) {move : Move ι}
    (hmove : ∀ i r m, move = .answer i (some r) → m ∈ r.metadata → T m) :
    (g.step lookups move).Tells T := by
  intro i rest found m hprogress hm
  rcases progress_step_cases g move i with hsame | ⟨_, hbegin⟩ | ⟨answer, rfl, _, hsettle⟩ |
    ⟨r, rest', found', hbefore, hafter⟩
  · exact h i rest found m (hsame ▸ hprogress) hm
  · rw [hbegin] at hprogress
    exact absurd hm (told_notMem_begin hprogress m)
  · rw [hsettle] at hprogress
    cases hprogress
    obtain ⟨r, rfl, hr⟩ := HostLookup.told_mem_settle hm
    exact hmove i r m rfl hr
  · rw [hafter] at hprogress
    cases hprogress
    exact h i _ _ m hbefore (List.mem_cons_of_mem _ hm)

/-- After some steps the entries to be registered are those of their answers. -/
theorem Tells.run {T : InstanceMetadata → Prop} (h : g.Tells T) {moves : List (Move ι)}
    (hmoves : ∀ m, ToldIn moves m → T m) : (g.run lookups moves).Tells T := by
  induction moves generalizing g with
  | nil => exact h
  | cons move rest ih =>
    refine ih (h.step ?_) fun m hm => hmoves m (hm.mono (List.subset_cons_self move rest))
    rintro i r m rfl hm
    exact hmoves m ⟨i, r, List.mem_cons_self, hm⟩

/-- An entry that is registered comes from an answer. -/
theorem Tells.of_mem_registered {T : InstanceMetadata → Prop} (h : g.Tells T)
    {moves : List (Move ι)} (hmoves : ∀ m, ToldIn moves m → T m) {m : InstanceMetadata}
    (hm : (i, .told m) ∈ g.registered lookups moves) : T m := by
  induction moves generalizing g with
  | nil => cases hm
  | cons move rest ih =>
    rcases List.mem_append.1 hm with hm | hm
    · obtain ⟨_, rest, found, hprogress⟩ := registers?_eq_some (Option.mem_toList.1 hm)
      exact h i _ found m hprogress List.mem_cons_self
    · refine ih (h.step ?_) (fun m h => hmoves m (h.mono (List.subset_cons_self move rest))) hm
      rintro j r m rfl hr
      exact hmoves m ⟨j, r, List.mem_cons_self, hr⟩

/-! ### Assumptions -/

/-- A host that is known stays known. -/
theorem isSome_cached?_step (h : (g.map.cached? host).isSome = true) (move : Move ι) :
    ((g.step lookups move).map.cached? host).isSome = true := by
  rw [map_step, DiscoveryCache.cached?_registerAll, Option.isSome_or, h, Bool.or_true]

/-- Who can assume after a step that a known host is alone could do so before: a lookup that looks
into the map now finds the host. -/
theorem mayAssume_of_step (hknown : (g.map.cached? host).isSome = true) {move : Move ι}
    (h : (g.step lookups move).MayAssume lookups i host) : g.MayAssume lookups i host := by
  obtain ⟨hsame, hprogress⟩ := h
  refine ⟨hsame, ?_⟩
  rcases progress_step_cases g move i with heq | ⟨_, hbegin⟩ | ⟨answer, _, hasking, hsettle⟩ |
    ⟨r, rest, found, hbefore, hafter⟩
  · rwa [heq] at hprogress
  · obtain ⟨m, hm⟩ := Option.isSome_iff_exists.1 hknown
    have hfound : (lookups i).begin g.map = .settled [] (.ok m) := by
      rw [HostLookup.begin, DiscoveryCache.inquire, g.map.cached?_congr hsame, hm]
    rw [hbegin, hfound] at hprogress
    obtain ⟨hasking, _⟩ | ⟨rest, found, hsettled, hassumed⟩ := hprogress
    · cases hasking
    · cases hsettled
      cases hassumed
  · rw [hsettle] at hprogress
    obtain ⟨hfalse, _⟩ | ⟨rest, found, hsettled, hassumed⟩ := hprogress
    · cases hfalse
    · cases hsettled
      exact .inl ⟨hasking, HostLookup.validate_of_assumed_mem_settle hassumed⟩
  · rw [hafter] at hprogress
    obtain ⟨hfalse, _⟩ | ⟨rest, found, hsettled, hassumed⟩ := hprogress
    · cases hfalse
    · cases hsettled
      exact .inr ⟨_, _, hbefore, List.mem_cons_of_mem _ hassumed⟩

/-- That a known host is alone is registered only for a lookup of that host that was beyond its look
into the map already, and that does not validate. -/
theorem mayAssume_of_mem_registered (hknown : (g.map.cached? host).isSome = true)
    {moves : List (Move ι)} (h : (i, .assumed) ∈ g.registered lookups moves)
    (hsame : sameText (lookups i).authority.host host = true) : g.MayAssume lookups i host := by
  induction moves generalizing g with
  | nil => cases h
  | cons move rest ih =>
    rcases List.mem_append.1 h with h | h
    · obtain ⟨_, rest, found, hprogress⟩ := registers?_eq_some (Option.mem_toList.1 h)
      exact ⟨hsame, .inr ⟨_, found, hprogress, List.mem_cons_self⟩⟩
    · exact mayAssume_of_step hknown (ih (isSome_cached?_step hknown move) h)

/-! ### Names that are kept -/

/-- **When a host keeps its names.** All answers agree on which hosts belong together, and the last
registration that named the host gave it the names of an answer, other names than its own among them.
Then, whatever steps follow, the host keeps these names exactly if the last registration that names
it afterwards is not an assumption that it is alone. Such an assumption is that of a lookup of the
host that does not validate, and had looked into the map before. -/
theorem aliases_kept_iff {d : DiscoveryCache} {before after : List (Move ι)}
    {m : InstanceMetadata}
    (hagree : ∀ m m', ToldIn (before ++ after) m → ToldIn (before ++ after) m' → m.Agrees m')
    (hbefore : (start d).lastOn lookups host before = some (i, .told m))
    (hother : ∃ other, m.hasAlias other = true ∧ sameText other host = false) :
    let g := (start d).run lookups before
    let found := ((start d).run lookups (before ++ after)).map.cached? host
    ((∃ m', found = some m' ∧ m'.SameNames m) ↔
        ∀ j, g.lastOn lookups host after ≠ some (j, .assumed)) ∧
      ∀ j, g.lastOn lookups host after = some (j, .assumed) →
        found = some (.forSelf host) ∧ g.MayAssume lookups j host := by
  intro g found
  obtain ⟨hregistered, hnamed⟩ := mem_registered_of_lastOn hbefore
  have htold : ToldIn (before ++ after) m := by
    apply (tells_start d _).of_mem_registered _ hregistered
    exact fun _ h => h.mono (List.subset_append_left before after)
  have hcached : g.map.cached? host = some m := by
    rw [cached?_run, hbefore]
    rfl
  have hfound : found = ((g.lastOn lookups host after).map (stored lookups)).or (some m) := by
    rw [← hcached, ← cached?_run, ← run_append]
  -- an assumption leaves the host alone, and was settled before
  have hassumed : ∀ j, g.lastOn lookups host after = some (j, .assumed) →
      found = some (.forSelf host) ∧ g.MayAssume lookups j host := by
    intro j hlast
    obtain ⟨hmem, halias⟩ := mem_registered_of_lastOn hlast
    have hsame : sameText (lookups j).authority.host host = true :=
      InstanceMetadata.hasAlias_forSelf.1 halias
    refine ⟨?_, mayAssume_of_mem_registered (by rw [hcached]; rfl) hmem hsame⟩
    rw [hfound, hlast]
    exact congrArg some (InstanceMetadata.forSelf_congr hsame)
  refine ⟨⟨?_, ?_⟩, hassumed⟩
  · rintro ⟨m', hm', hnames⟩ j hlast
    obtain ⟨other, halias, hdifferent⟩ := hother
    rw [(hassumed j hlast).1, Option.some.injEq] at hm'
    subst hm'
    rw [← hnames other, InstanceMetadata.hasAlias_forSelf, sameText_comm, hdifferent] at halias
    cases halias
  · intro hkept
    rcases hlast : g.lastOn lookups host after with _ | ⟨j, m' | _⟩
    · exact ⟨m, by rw [hfound, hlast]; rfl, fun _ => rfl⟩
    · obtain ⟨hmem, halias⟩ := mem_registered_of_lastOn hlast
      have htold' : ToldIn (before ++ after) m' := by
        have hg : ((start d).run lookups before).Tells (ToldIn (before ++ after)) := by
          refine (tells_start d _).run ?_
          exact fun _ h => h.mono (List.subset_append_left before after)
        apply hg.of_mem_registered _ hmem
        exact fun _ h => h.mono (List.subset_append_right before after)
      refine ⟨m', by rw [hfound, hlast]; rfl, ?_⟩
      exact hagree m' m htold' htold host halias hnamed
    · exact absurd hlast (hkept j)

/-! ### A host that ends up alone -/

namespace Sample

/-- An instance with two names. -/
def known : InstanceMetadata :=
  ⟨"login.example.org", "login.example.org", ["login.example.org", "login.example.net"]⟩

/-- An answer that knows the instance. -/
def answer : DiscoveryResponse := ⟨some "https://login.example.org", [known]⟩

/-- Two lookups of one host, one of which validates. -/
def validating (validate : Bool) : HostLookup := ⟨HostLookup.Sample.authority, validate⟩

/-- Both lookups look into the map that holds nothing; one of them is answered. -/
def before : List (Move Bool) :=
  [.check false, .check true, .answer true (some answer), .register true]

/-- The other one is answered, too, or its question fails. -/
def after (late : Option DiscoveryResponse) : List (Move Bool) :=
  [.answer false late, .register false]

/-- All that is told in the run agrees, if the late answer says the same as the first one. -/
theorem agrees_of_toldIn {late : Option DiscoveryResponse} (hlate : ∀ r, late = some r → r = answer)
    {m m' : InstanceMetadata} (h : ToldIn (before ++ after late) m)
    (h' : ToldIn (before ++ after late) m') : m.Agrees m' := by
  have htold : ∀ m, ToldIn (before ++ after late) m → m = known := by
    rintro m ⟨i, r, hmove, hm⟩
    have hr : r = answer := by
      simp only [before, after, List.cons_append, List.nil_append, List.mem_cons, reduceCtorEq,
        Move.answer.injEq, Option.some.injEq, List.not_mem_nil, or_false, false_or] at hmove
      rcases hmove with ⟨_, rfl⟩ | ⟨_, hr⟩
      · rfl
      · exact hlate r hr.symm
    subst hr
    exact List.mem_singleton.1 hm
  rw [htold m h, htold m' h']
  exact known.agrees_self

end Sample

/-- An answer that comes late does no harm, since it says the same. -/
theorem aliases_kept_late :
    (∀ m m', ToldIn (Sample.before ++ Sample.after (some Sample.answer)) m →
        ToldIn (Sample.before ++ Sample.after (some Sample.answer)) m' → m.Agrees m') ∧
      (start .asking).lastOn Sample.validating "login.example.org" Sample.before =
        some (true, .told Sample.known) ∧
      (∃ other, Sample.known.hasAlias other = true ∧
        sameText other "login.example.org" = false) ∧
      ∃ m', ((start .asking).run Sample.validating
          (Sample.before ++ Sample.after (some Sample.answer))).map.cached? "login.example.org" =
            some m' ∧ m'.SameNames Sample.known := by
  have hagree : ∀ m m', ToldIn (Sample.before ++ Sample.after (some Sample.answer)) m →
      ToldIn (Sample.before ++ Sample.after (some Sample.answer)) m' → m.Agrees m' := by
    intro m m' h h'
    exact Sample.agrees_of_toldIn (fun r hr => (Option.some.inj hr).symm) h h'
  have hbefore : (start .asking).lastOn Sample.validating "login.example.org" Sample.before =
      some (true, .told Sample.known) := by
    rfl
  have hother : ∃ other, Sample.known.hasAlias other = true ∧
      sameText other "login.example.org" = false := ⟨"login.example.net", by decide, by decide⟩
  refine ⟨hagree, hbefore, hother, (aliases_kept_iff hagree hbefore hother).1.2 ?_⟩
  intro j hlast
  have htold : ((start .asking).run Sample.validating Sample.before).lastOn Sample.validating
      "login.example.org" (Sample.after (some Sample.answer)) =
        some (false, .told Sample.known) := by
    rfl
  rw [htold] at hlast
  cases hlast

/-- The question of the lookup that does not validate fails, after the other one has registered the
answer. Its host is then alone, and the other name is not found through it any more. -/
theorem aliases_forgotten :
    (∀ m m', ToldIn (Sample.before ++ Sample.after none) m →
        ToldIn (Sample.before ++ Sample.after none) m' → m.Agrees m') ∧
      ((start .asking).run Sample.validating Sample.before).map.cached? "login.example.org" =
        some Sample.known ∧
      ((start .asking).run Sample.validating (Sample.before ++ Sample.after none)).map.cached?
        "login.example.org" = some (.forSelf "login.example.org") := by
  refine ⟨?_, by rfl, by rfl⟩
  intro m m' h h'
  refine Sample.agrees_of_toldIn ?_ h h'
  intro r hr
  cases hr

end LookupGroup

end SilentAuth
