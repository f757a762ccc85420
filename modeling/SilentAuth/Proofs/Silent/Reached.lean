import SilentAuth.Proofs.Discovery.Partition
import SilentAuth.Proofs.Silent.OwnTokens

/-!
# Sessions that applications reach

An application starts with a cache that holds nothing and performs operations. Between them others
may find hosts out, persist their caches, or break the storage and mend it. Whatever happens, the
cache in memory can be persisted as a document, and the map of hosts is one that comes about by
registering.

* `Action.Invariant`: what each primitive action keeps; `Action.Invariant.perform`: so do operations.
* `Application.Reached`: the sessions that an application reaches.
* `Application.Reached.holds`: what operations and others keep holds of all of them.
* `Application.Reached.built`, `Application.Reached.fits`: their hosts and their caches.
-/

namespace SilentAuth

open Session SilentAuth.Action

/-! ### What operations keep -/

namespace Action

/-- All that an application does to its session keeps a condition: looking hosts up, asking the
identity provider, accesses to the cache, and waiting. -/
structure Invariant (services : Services) (kept : Session → Prop) : Prop where
  resolve : ∀ a validate, Leads services kept (fun _ => kept) (resolve a validate)
  exchange : ∀ request, Leads services kept (fun _ => kept) (exchange request)
  withCache : ∀ {α : Type} clientId account (access : TokenCache → α × TokenCache),
    Leads services kept (fun _ => kept) (withCache clientId account access)
  wait : ∀ s now, kept s → kept { s with now }

namespace Invariant

variable {services : Services} {kept : Session → Prop} {app : Application}

/-- A condition that accesses, lookups and exchanges keep is kept when an application asks for
itself. -/
theorem acquireOwn (h : Invariant services kept) (scopes : Scopes) :
    Leads services kept (fun _ => kept) (app.acquireOwn scopes) := by
  refine Leads.bind_of_keeps kept (h.resolve _ _) (fun _ h => h) fun metadata => ?_
  refine Leads.bind_of_keeps kept (leads_view fun _ h => h) (fun _ h => h) fun now => ?_
  exact Leads.bind_of_keeps kept (h.withCache _ _ _) (fun _ h => h) fun found =>
    leads_ofExcept fun _ h => h

/-- It is kept when an answer is cached. -/
theorem cacheResponse (h : Invariant services kept) (authority : Authority)
    (metadata : InstanceMetadata) (scopes : Scopes) (account : Option Account)
    (response : TokenResponse) :
    Leads services kept (fun _ => kept)
      (app.cacheResponse authority metadata scopes account response) := by
  refine Leads.bind_of_keeps kept (leads_view fun _ h => h) (fun _ h => h) fun now => ?_
  exact Leads.bind_of_keeps kept (h.withCache _ _ _) (fun _ h => h) fun saved =>
    leads_pure fun _ h => h

/-- It is kept when a refresh token is redeemed that was offered. -/
theorem refresh (h : Invariant services kept) (authority : Authority)
    (metadata : InstanceMetadata) (account : Account) (scopes : Scopes) (plan : RefreshPlan) :
    Leads services kept (fun _ => kept)
      (app.refresh authority metadata account scopes plan) := by
  refine Leads.bind_of_keeps kept (h.exchange _) (fun _ h => h) fun answer => ?_
  refine Leads.bind_of_keeps kept ?_ (fun _ h => h) fun refreshed => leads_ofExcept fun _ h => h
  cases answer with
  | error e => exact leads_pure fun _ h => h
  | ok response =>
    exact Leads.bind_of_keeps kept (h.cacheResponse _ _ _ _ _) (fun _ h => h) fun issued =>
      leads_pure fun _ h => h

/-- It is kept when a token is acquired for an account. -/
theorem acquireFor (h : Invariant services kept) (account : Account) (scopes : Scopes)
    (force : Bool) : Leads services kept (fun _ => kept) (app.acquireFor account scopes force) := by
  refine Leads.bind_of_keeps kept (leads_ofExcept fun _ h => h) (fun _ h => h) fun authority => ?_
  refine Leads.bind_of_keeps kept (h.resolve _ _) (fun _ h => h) fun metadata => ?_
  refine Leads.bind_of_keeps kept (leads_view fun _ h => h) (fun _ h => h) fun aliases => ?_
  refine Leads.bind_of_keeps kept (leads_view fun _ h => h) (fun _ h => h) fun now => ?_
  refine Leads.bind_of_keeps kept (h.withCache _ _ _) (fun _ h => h) fun answer => ?_
  refine Leads.bind_of_keeps kept (leads_ofExcept fun _ h => h) (fun _ h => h) fun offer => ?_
  cases offer with
  | hit found => exact leads_pure fun _ h => h
  | refresh plan => exact h.refresh _ _ _ _ _

/-- It is kept when a refresh token from elsewhere is redeemed. -/
theorem redeem (h : Invariant services kept) (refreshToken : String) (scopes : Scopes) :
    Leads services kept (fun _ => kept) (app.redeem refreshToken scopes) := by
  refine Leads.bind_of_keeps kept (h.resolve _ _) (fun _ h => h) fun metadata => ?_
  refine Leads.bind_of_keeps kept (h.exchange _) (fun _ h => h) fun answer => ?_
  refine Leads.bind_of_keeps kept (leads_ofExcept fun _ h => h) (fun _ h => h) fun response => ?_
  exact h.cacheResponse _ _ _ _ _

/-- It is kept when the accounts are listed. -/
theorem accounts (h : Invariant services kept) :
    Leads services kept (fun _ => kept) app.accounts :=
  Leads.bind_of_keeps kept (h.resolve _ _) (fun _ h => h) fun _ => h.withCache _ _ _

/-- It is kept when an account is removed. -/
theorem removeAccount (h : Invariant services kept) (account : Account) :
    Leads services kept (fun _ => kept) (app.removeAccount account) := by
  refine Leads.bind_of_keeps kept (h.resolve _ _) (fun _ h => h) fun metadata => ?_
  refine Leads.bind_of_keeps kept (leads_view fun _ h => h) (fun _ h => h) fun aliases => ?_
  exact h.withCache _ _ _

/-- **Step.** What all primitive actions keep, every operation keeps. -/
theorem perform (h : Invariant services kept) {s : Session} (hs : kept s)
    (op : Application.Operation) : kept (app.perform services s op) := by
  cases op with
  | acquire request =>
    cases request with
    | app scopes => exact h.acquireOwn scopes s hs
    | account account scopes force => exact h.acquireFor account scopes force s hs
  | redeem refreshToken scopes => exact h.redeem refreshToken scopes s hs
  | accounts => exact h.accounts s hs
  | remove account => exact h.removeAccount account s hs
  | wait now => exact h.wait s now hs

end Invariant

/-- Whatever an application does, its map of hosts is one that comes about. -/
theorem invariant_built (services : Services) : Invariant services fun s => s.discovery.Built where
  resolve := fun _ _ _ h => built_resolve h
  exchange := fun _ _ h => h
  withCache := fun _ _ _ => leads_withCache_of_surroundings fun _ _ hsame h => hsame.discovery ▸ h
  wait := fun _ _ h => h

end Action

/-! ### Sessions that are reached -/

namespace Application

/-- What others do to a session: they may register hosts, let time pass, persist their caches, and
change how the storage works, of which `hook` holds. They cannot set a storage up. -/
structure Disturbs (hook : Storage → Prop) (s t : Session) : Prop where
  cache : t.cache = s.cache
  discovery : t.discovery.Built
  storage : t.storage.isSome = s.storage.isSome
  hooked : ∀ storage, t.storage = some storage → hook storage

/-- The sessions that an application reaches whose storage, if it has one, is such that `hook`
holds. -/
inductive Reached (app : Application) (hook : Storage → Prop) : Session → Prop
  | start {s : Session} : s.cache = .new → s.discovery.Built →
    (∀ storage, s.storage = some storage → hook storage) → Reached app hook s
  | perform {s : Session} (services : Services) (op : Operation) :
    Reached app hook s → Reached app hook (app.perform services s op)
  | disturb {s t : Session} : Reached app hook s → Disturbs hook s t → Reached app hook t

variable {app : Application} {hook : Storage → Prop} {s t : Session}

/-- **Run.** What holds at the start, and is kept by operations and by others, holds of every
session that an application reaches. -/
theorem Reached.holds {kept : Session → Prop} (hs : app.Reached hook s)
    (hstart : ∀ s, s.cache = .new → s.discovery.Built →
      (∀ storage, s.storage = some storage → hook storage) → kept s)
    (hperform : ∀ services op s, kept s → kept (app.perform services s op))
    (hdisturb : ∀ s t, Disturbs hook s t → kept s → kept t) : kept s := by
  induction hs with
  | start hcache hdiscovery hhook => exact hstart _ hcache hdiscovery hhook
  | perform services op _ ih => exact hperform services op _ ih
  | disturb _ hdisturbs ih => exact hdisturb _ _ hdisturbs ih

/-- The map of hosts comes about by registering. -/
theorem Reached.built (hs : app.Reached hook s) : s.discovery.Built := by
  refine hs.holds (fun _ _ h _ => h) ?_ (fun _ _ h _ => h.discovery)
  exact fun services op s h => (invariant_built services).perform h op

/-- The next access works on a cache that can be persisted as a document. -/
theorem Reached.fits (hs : app.Reached hook s) {c : TokenCache} (hopened : s.opened = .ok c) :
    c.store.Fits ∧ ∀ b, c.baseline = some b → b.Fits := by
  have hpersisted : ∀ content : Persisted, content.OwnTokensIn fun _ => True :=
    fun _ _ _ _ _ _ _ _ => trivial
  have hkept : s.OwnTokensIn fun _ => True := by
    refine hs.holds ?_ ?_ ?_
    · intro s hcache _ _
      refine ⟨?_, fun storage _ => hpersisted storage.content⟩
      rw [hcache]
      refine ⟨fun _ _ _ => trivial, Store.fits_empty.1, ?_⟩
      intro b hb
      cases hb
    · exact fun services op s h =>
        perform_ownTokensIn h (fun _ _ content _ => hpersisted content) fun _ _ => trivial
    · exact fun s t hdisturbs h =>
        ⟨hdisturbs.cache ▸ h.cache, fun storage _ => hpersisted storage.content⟩
  have hc := hkept.opened hopened
  exact ⟨hc.fits, hc.baseline⟩

end Application

end SilentAuth
