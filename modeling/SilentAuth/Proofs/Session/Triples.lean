import SilentAuth.Proofs.Session.Access

/-!
# What actions lead to

An action leads from sessions that satisfy a condition to results and sessions that satisfy another
one. There is one rule for each way to make an action, so what an application keeps is shown along
the text of its actions, errors included.

* `Action.Leads`: the relation of an action, the condition before it, and the one after it.
* `Action.Leads.bind`, `Action.Leads.bind_of_keeps`: the rules for one action after another.
* `Action.leads_resolve`, `Action.leads_withCache`: the rules for looking hosts up and for accesses
  to the cache; `Action.leads_withCache_of_surroundings`: what an access leaves alone.
-/

namespace SilentAuth

open Session

namespace Action

variable {α β : Type} {services : Services} {before : Session → Prop}
  {after : Except Error α → Session → Prop}

/-- From every session that satisfies `before`, an action ends with a result and in a session that
satisfy `after`. -/
def Leads (services : Services) (before : Session → Prop)
    (after : Except Error α → Session → Prop) (x : Action α) : Prop :=
  ∀ s, before s → after (x services s).1 (x services s).2

namespace Leads

variable {x : Action α} {f : α → Action β}

/-- Less is required before, or less is said afterwards. -/
theorem weaken {before' : Session → Prop} {after' : Except Error α → Session → Prop}
    (h : Leads services before after x) (hbefore : ∀ s, before' s → before s)
    (hafter : ∀ result s, after result s → after' result s) :
    Leads services before' after' x :=
  fun s hs => hafter _ _ (h s (hbefore s hs))

/-- What is shown in two parts. -/
theorem and {before' : Session → Prop} {after' : Except Error α → Session → Prop}
    (h : Leads services before after x) (h' : Leads services before' after' x) :
    Leads services (fun s => before s ∧ before' s)
      (fun result s => after result s ∧ after' result s) x :=
  fun s hs => ⟨h s hs.1, h' s hs.2⟩

/-- What holds at the end of a run. -/
theorem ends (h : Leads services before after x) {s t : Session} {result : Except Error α}
    (hs : before s) (hrun : x services s = (result, t)) : after result t := by
  have hend := h s hs
  rwa [hrun] at hend

/-- One action after another: the condition between them is that under which the second one starts,
and if the first one ends with an error, it is what remains. -/
theorem bind (between : Except Error α → Session → Prop)
    {ends : Except Error β → Session → Prop} (hx : Leads services before between x)
    (herror : ∀ e s, between (.error e) s → ends (.error e) s)
    (hf : ∀ a, Leads services (between (.ok a)) ends (f a)) :
    Leads services before ends (x >>= f) := by
  intro s hs
  have hfirst := hx s hs
  rw [bind_apply]
  cases hrun : x services s with
  | mk result t =>
    rw [hrun] at hfirst
    cases result with
    | ok a => exact hf a t hfirst
    | error e => exact herror e t hfirst

/-- One action after another, where only the sessions matter. -/
theorem bind_of_keeps (kept : Session → Prop) {kept' : Session → Prop}
    (hx : Leads services before (fun _ => kept) x) (hkept : ∀ s, kept s → kept' s)
    (hf : ∀ a, Leads services kept (fun _ => kept') (f a)) :
    Leads services before (fun _ => kept') (x >>= f) :=
  bind _ hx (fun _ => hkept) hf

end Leads

/-- An action that only gives a value leads to what holds of the value. -/
theorem leads_pure {a : α} (h : ∀ s, before s → after (.ok a) s) :
    Leads services before after (pure a : Action α) := h

/-- An action that only gives a result leads to what holds of the result. -/
theorem leads_ofExcept {result : Except Error α} (h : ∀ s, before s → after result s) :
    Leads services before after (ofExcept result) := h

/-- An action that only looks at the session leads to what holds of what it sees. -/
theorem leads_view {f : Session → α} (h : ∀ s, before s → after (.ok (f s)) s) :
    Leads services before after (view f) := h

/-- A condition on what looking hosts up leaves alone remains. -/
theorem leads_resolve {a : Authority} {validate : Bool} {kept : Session → Prop}
    (h : ∀ s t, SameAccess s t → kept s → kept t) :
    Leads services kept (fun _ => kept) (resolve a validate) :=
  fun s hs => h s _ (resolve_sameAccess rfl) hs

/-- A condition on what accesses leave alone remains. -/
theorem leads_withCache_of_surroundings {clientId : String} {account : Option Account}
    {access : TokenCache → α × TokenCache} {kept : Session → Prop}
    (h : ∀ s t, SameSurroundings s t → kept s → kept t) :
    Leads services kept (fun _ => kept) (withCache clientId account access) :=
  fun s hs => h s _ (withCache_sameSurroundings rfl) hs

/-- A condition remains after an access if loading, the access itself and storing keep it, and it
does not depend on what is noted. -/
theorem leads_withCache {clientId : String} {account : Option Account}
    {access : TokenCache → α × TokenCache} {kept : Session → Prop}
    (hnote : ∀ moment s, kept s → kept (s.note moment clientId account))
    (hload : ∀ s, kept s → kept s.load.2)
    (haccess : ∀ s, kept s → kept { s with cache := (access s.cache).2 })
    (hstore : ∀ s, kept s → kept s.store.2) :
    Leads services kept (fun _ => kept) (withCache clientId account access) := by
  refine Leads.bind_of_keeps kept ?_ (fun _ h => h) fun _ => ?_
  · exact fun s hs => hload _ (hnote .before s hs)
  refine Leads.bind_of_keeps kept ?_ (fun _ h => h) fun _ => ?_
  · exact haccess
  refine Leads.bind_of_keeps kept ?_ (fun _ h => h) fun _ => ?_
  · exact fun s hs => hstore _ (hnote .after s hs)
  exact leads_pure fun _ h => h

end Action

end SilentAuth
