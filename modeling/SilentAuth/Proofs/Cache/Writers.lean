import Mathlib.Logic.Function.Basic
import SilentAuth.Proofs.Cache.Entries

/-!
# Caches that share one persisted text

Several caches load from and save to one text, in any order of their steps. A cache saves what it
holds, merged into the document that it loaded itself. What the text says at that time is not looked
at, so an entry that another cache saved in between goes, unless the loaded text had it already.

* `CacheGroup.Keeps.run`: a cache that leaves an entry alone holds it as it loaded it, whatever the
  other caches do.
* `CacheGroup.entry_after_save`: which entries are left after a save.
* `CacheGroup.saved_entry_lost`: a saved entry that goes, though the other cache never touched it.
-/

namespace SilentAuth

/-- Caches that share one persisted text. -/
structure CacheGroup (ι : Type) where
  /-- The caches. -/
  caches : ι → TokenCache
  /-- The text that is stored. -/
  text : String

namespace CacheGroup

variable {ι : Type}

/-- A step of one of the caches. -/
inductive Move (ι : Type) where
  /-- The cache is loaded from the stored text. -/
  | load (i : ι)
  /-- The store of the cache is changed. -/
  | change (i : ι) (f : Store → Store)
  /-- What the cache is to persist becomes the stored text. -/
  | save (i : ι)

variable [DecidableEq ι]

/-- The caches and the text after a step. A text that says no store is not loaded. -/
def step (g : CacheGroup ι) : Move ι → CacheGroup ι
  | .load i => { g with
      caches := Function.update g.caches i ((TokenCache.load? g.text).getD (g.caches i)) }
  | .change i f => { g with caches := Function.update g.caches i ((g.caches i).modify f) }
  | .save i => ⟨Function.update g.caches i (g.caches i).save.2, (g.caches i).save.1⟩

/-- The caches and the text after some steps. -/
def run (g : CacheGroup ι) (moves : List (Move ι)) : CacheGroup ι := moves.foldl step g

/-- A step leaves an entry of a cache alone: the cache is not loaded, and if it is changed, then the
entry stays. -/
def Spares (g : CacheGroup ι) (i : ι) (kind : RecordKind) (key : String) : Move ι → Prop
  | .load j => j ≠ i
  | .change j f =>
    j = i → (f (g.caches i).store).entryAt? kind key = (g.caches i).store.entryAt? kind key
  | .save _ => True

/-- Every one of some steps leaves an entry of a cache alone. -/
def SparesAll (i : ι) (kind : RecordKind) (key : String) : CacheGroup ι → List (Move ι) → Prop
  | _, [] => True
  | g, m :: rest => g.Spares i kind key m ∧ SparesAll i kind key (g.step m) rest

/-! ### What a cache keeps -/

/-- A cache holds an entry, or holds nothing in its place, as the document does that it knows. -/
structure Keeps (c : TokenCache) (kind : RecordKind) (key : String) (entry : Option Entry) :
    Prop where
  held : c.store.entryAt? kind key = entry
  known : ∃ b, c.baseline = some b ∧ b.entryAt? kind key = entry

variable {g : CacheGroup ι} {i : ι} {kind : RecordKind} {key : String} {entry : Option Entry}

/-- The document to persist has the entry. -/
theorem Keeps.document {c : TokenCache} (h : Keeps c kind key entry) :
    c.document.entryAt? kind key = entry := by
  obtain ⟨held, b, hb, known⟩ := h
  rw [TokenCache.document, hb]
  exact (Store.entryAt?_merge_of_eq (known.trans held.symm)).trans held

/-- A cache that was loaded holds what the text says. -/
theorem keeps_load {s : Store} (h : TokenCache.parse? g.text = some s) :
    Keeps ((g.step (.load i)).caches i) kind key (s.entryAt? kind key) := by
  have hcache : (g.step (.load i)).caches i = ⟨s, some s, false⟩ := by
    simp [step, TokenCache.load?, h]
  rw [hcache]
  exact ⟨rfl, s, rfl, rfl⟩

/-- A step that leaves the entry alone keeps it. -/
theorem Keeps.step (h : Keeps (g.caches i) kind key entry) {m : Move ι}
    (hspares : g.Spares i kind key m) : Keeps ((g.step m).caches i) kind key entry := by
  cases m with
  | load j =>
    have hcache : (g.step (.load j)).caches i = g.caches i :=
      Function.update_of_ne (Ne.symm hspares) _ _
    rwa [hcache]
  | change j f =>
    by_cases hj : j = i
    · subst hj
      have hcache : (g.step (.change j f)).caches j = (g.caches j).modify f :=
        Function.update_self j _ _
      rw [hcache]
      exact ⟨(hspares rfl).trans h.held, h.known⟩
    · have hcache : (g.step (.change j f)).caches i = g.caches i :=
        Function.update_of_ne (Ne.symm hj) _ _
      rwa [hcache]
  | save j =>
    by_cases hj : j = i
    · subst hj
      have hcache : (g.step (.save j)).caches j = (g.caches j).save.2 :=
        Function.update_self j _ _
      rw [hcache]
      exact ⟨h.document, _, rfl, h.document⟩
    · have hcache : (g.step (.save j)).caches i = g.caches i :=
        Function.update_of_ne (Ne.symm hj) _ _
      rwa [hcache]

/-- Steps that leave the entry alone keep it, whatever the other caches do in between. -/
theorem Keeps.run {moves : List (Move ι)} (h : Keeps (g.caches i) kind key entry)
    (hspares : g.SparesAll i kind key moves) : Keeps ((g.run moves).caches i) kind key entry := by
  induction moves generalizing g with
  | nil => exact h
  | cons m rest ih => exact ih (h.step hspares.1) hspares.2

/-- The text that a cache saves has the entry that the cache keeps. -/
theorem entryOfText?_save (h : Keeps (g.caches i) kind key entry) :
    entryOfText? (g.step (.save i)).text kind key =
      entry.map fun e => ParseTree.ofValue e.toJson.reread := by
  have htext : (g.step (.save i)).text = (g.caches i).document.text := rfl
  rw [htext, entryOfText?_text, h.document]

/-! ### Entries after a save -/

/-- **Which entries are left.** A cache loads the text, all caches take any steps, and the cache
saves without having touched an entry. Then the text has the entry as the cache loaded it, and it
has one exactly if the loaded text did: whatever others saved there meanwhile is gone. -/
theorem entry_after_save (g : CacheGroup ι) (i : ι)
    (hload : (TokenCache.parse? g.text).isSome = true) (kind : RecordKind) (key : String)
    (moves : List (Move ι)) (hspares : (g.step (.load i)).SparesAll i kind key moves) :
    entryOfText? (g.run (.load i :: moves ++ [.save i])).text kind key =
        (((g.step (.load i)).caches i).store.entryAt? kind key).map
          (fun e => ParseTree.ofValue e.toJson.reread) ∧
      ((entryOfText? (g.run (.load i :: moves ++ [.save i])).text kind key).isSome = true ↔
        (entryOfText? g.text kind key).isSome = true) := by
  obtain ⟨s, hs⟩ := Option.isSome_iff_exists.1 hload
  have hloaded : Keeps ((g.step (.load i)).caches i) kind key (s.entryAt? kind key) := keeps_load hs
  have hrun : g.run (.load i :: moves ++ [.save i]) =
      ((g.step (.load i)).run moves).step (.save i) := by
    simp [run]
  have htext := entryOfText?_save (hloaded.run hspares)
  rw [hrun, htext, hloaded.held, Option.isSome_map, entryOfText?_isSome_iff hs]
  exact ⟨rfl, Iff.rfl⟩

/-! ### An entry that is lost -/

namespace Sample

/-- What is known about an application. -/
def application (name : String) : AppMetadataRecord := ⟨name, "e", none, .empty⟩

/-- Two fresh caches and a text. -/
def caches (text : String) : CacheGroup Bool := ⟨fun _ => .new, text⟩

/-- A text that knows the application `x`. -/
def known : String := (Store.empty.putAppMetadata (application "x")).text

/-- One cache is loaded, stores the application `x` and saves; after that the other one is
changed. -/
def overlapping (f : Store → Store) : List (Move Bool) :=
  [.load true, .change true (·.putAppMetadata (application "x")), .save true, .change false f]

/-- An account. -/
def account : AccountRecord := ⟨"h", "e", "t", none, none, none, none, none, .empty⟩

/-- The key of the application `x`. -/
def sharedKey : String := "appmetadata-e-x"

end Sample

/-- An entry that one cache saved, under a key that the other one never touched, is gone once the
other one saves, since that one was loaded before. -/
theorem saved_entry_lost :
    let moves := Sample.overlapping (·.putAppMetadata (Sample.application "y"))
    ((Sample.caches "").step (.load false)).SparesAll false .appMetadata Sample.sharedKey moves ∧
      (entryOfText? ((Sample.caches "").run (.load false :: moves)).text .appMetadata
        Sample.sharedKey).isSome = true ∧
      (entryOfText? ((Sample.caches "").run (.load false :: moves ++ [.save false])).text
        .appMetadata Sample.sharedKey).isSome = false := by
  refine ⟨⟨nofun, nofun, trivial, fun _ => rfl, trivial⟩, ?_, ?_⟩
  · exact (congrArg Option.isSome (entryOfText?_text _ _ _)).trans rfl
  · exact (congrArg Option.isSome (entryOfText?_text _ _ _)).trans rfl

/-- An entry that the text had before the other cache was loaded is kept. -/
theorem entry_after_save_kept :
    let moves := Sample.overlapping (·.putAccount Sample.account)
    (TokenCache.parse? (Sample.caches Sample.known).text).isSome = true ∧
      ((Sample.caches Sample.known).step (.load false)).SparesAll false .appMetadata
        Sample.sharedKey moves ∧
      (entryOfText?
        ((Sample.caches Sample.known).run (.load false :: moves ++ [.save false])).text
        .appMetadata Sample.sharedKey).isSome = true := by
  have hload : (TokenCache.parse? (Sample.caches Sample.known).text).isSome = true := by
    decide +kernel
  have hother : ∀ s : Store, (s.putAccount Sample.account).entryAt? .appMetadata Sample.sharedKey =
      s.entryAt? .appMetadata Sample.sharedKey := fun _ => rfl
  have hspares : ((Sample.caches Sample.known).step (.load false)).SparesAll false .appMetadata
      Sample.sharedKey (Sample.overlapping (·.putAccount Sample.account)) :=
    ⟨nofun, nofun, trivial, fun _ => hother _, trivial⟩
  have hknown : (entryOfText? Sample.known .appMetadata Sample.sharedKey).isSome = true :=
    (congrArg Option.isSome (entryOfText?_text _ _ _)).trans rfl
  exact ⟨hload, hspares, (entry_after_save _ false hload _ _ _ hspares).2.2 hknown⟩

end CacheGroup

end SilentAuth
