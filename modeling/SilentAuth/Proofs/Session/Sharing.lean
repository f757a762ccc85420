import SilentAuth.Deployment
import SilentAuth.Proofs.Cache.Bare
import SilentAuth.Proofs.Session.Reopening
import SilentAuth.Proofs.Silent.CacheServed

/-!
# Applications that share a persisted cache

Applications that share a storage load it before every access to their caches and persist what they
changed afterwards. As long as one access ends before the next one begins, this is as good as one
store that they all work on: a result is the one of that store, and the document that is persisted
says what it says, apart from what nobody recognizes. Names of scopes have to be words for that,
since a scope set is persisted as a text.

* `Access`: what an application does with its cache between loading and storing.
* `Application.acquireFor_eq` and the like: the operations of an application in terms of accesses.
* `Deployment.Holds.turn`: one access; `Deployment.Holds.afterTurns`: all of them.
* `Deployment.shares_one_store`: every access in any sequence.
-/

namespace SilentAuth

/-- Reading a part of a value is reading the value and taking the part. -/
theorem Action.reading_comp_bind {α β γ : Type} (clientId : String) (account : Option Account)
    (read : Store → α) (part : α → β) (next : β → Action γ) :
    (reading clientId account (fun s => part (read s)) >>= next) =
      (reading clientId account read >>= fun v => next (part v)) := by
  funext services s
  simp only [reading, withCache, bind, Action.bind, pure, Action.pure]
  cases (s.note .before clientId account).load with
  | mk loaded t =>
    cases loaded with
    | error e => rfl
    | ok _ =>
      dsimp only
      cases (t.note .after clientId account).store with
      | mk stored u => cases stored <;> rfl

/-! ### Accesses -/

/-- What an application does with its cache between loading and storing it. -/
inductive Access where
  /-- It looks for a token of its own. -/
  | findOwn (q : AccessTokenQuery)
  /-- It looks up what the cache offers to an account. -/
  | lookUp (q : AccountQuery)
  /-- It saves the tokens of a response. -/
  | save (i : Issued)
  /-- It removes an account under some hosts. -/
  | remove (homeAccountId : String) (aliases : List String)
  /-- It lists the accounts of a cloud instance. -/
  | list (metadata : InstanceMetadata)

namespace Access

/-- What an access is about. -/
def Result : Access → Type
  | .findOwn _ => Option AuthResult
  | .lookUp _ => Except CacheMiss Offer
  | .save _ => Option Account
  | .remove _ _ => Nat
  | .list _ => List Account

/-- What an access gives on a store. -/
def result : (a : Access) → Store → a.Result
  | .findOwn q, s => (s.findAccessToken q).map fun r => AuthResult.ofCache r none none
  | .lookUp q, s => s.offer q
  | .save i, _ => i.account?
  | .remove homeAccountId aliases, s => (s.removeAccount homeAccountId aliases).1
  | .list metadata, s =>
    (s.accounts.values.filter fun r => metadata.hasAlias r.environment).map Account.ofRecord

/-- What an access makes of a store, if it does not only read. -/
def change? : Access → Option (Store → Store)
  | .save i => some fun s => s.saveResponse i
  | .remove homeAccountId aliases => some fun s => (s.removeAccount homeAccountId aliases).2
  | .findOwn _ | .lookUp _ | .list _ => none

/-- The store after an access. -/
def apply (a : Access) (s : Store) : Store := a.change?.elim s (· s)

/-- An application makes an access. -/
def perform (a : Access) (clientId : String) (account : Option Account) : Action a.Result :=
  a.change?.elim (Action.reading clientId account a.result)
    (Action.changing clientId account a.result)

/-- The names of the scopes that are saved are words. -/
def InWords : Access → Prop
  | .save i =>
    ∀ name ∈ i.context.requestedScopes.names ++ i.response.scopes.names, IsWord name
  | .findOwn _ | .lookUp _ | .remove _ _ | .list _ => True

end Access

namespace Application

variable (app : Application)

/-- An application looks for a token of its own in one access. -/
theorem acquireOwn_eq (scopes : Scopes) : app.acquireOwn scopes = (do
    let metadata ← app.resolve app.authority
    let now ← Action.view Session.now
    let found : Option AuthResult ←
      (Access.findOwn (app.ownTokenQuery scopes metadata.aliases now)).perform app.clientId none
    Action.ofExcept (found.elim (.error (.cacheMiss .noAppToken)) .ok)) := by
  unfold acquireOwn
  congr 1
  funext metadata
  congr 1
  funext now
  let q := app.ownTokenQuery scopes metadata.aliases now
  refine Eq.trans ?_ (Action.reading_comp_bind app.clientId none (fun s => s.findAccessToken q)
    (fun found => found.map fun r => AuthResult.ofCache r none none) _).symm
  congr 1
  funext found
  cases found <;> rfl

/-- A token for an account is looked up in one access. -/
theorem acquireFor_eq (account : Account) (scopes : Scopes) (forceRefresh : Bool) :
    app.acquireFor account scopes forceRefresh = (do
      let authority ← Action.ofExcept (app.authorityFor account)
      let metadata ← app.resolve authority
      let aliases ← Action.view fun s => accountAliases metadata s.discovery account
      let now ← Action.view Session.now
      let offer : Except CacheMiss Offer ←
        (Access.lookUp (app.accountQuery authority account scopes forceRefresh aliases now)).perform
          app.clientId (some account)
      app.take authority metadata account scopes
        (← Action.ofExcept (offer.mapError .cacheMiss))) := rfl

/-- The tokens of a response are saved in one access. -/
theorem cacheResponse_eq (authority : Authority) (metadata : InstanceMetadata) (scopes : Scopes)
    (account : Option Account) (response : TokenResponse) :
    app.cacheResponse authority metadata scopes account response = (do
      let now ← Action.view Session.now
      let saved : Option Account ← (Access.save {
        context := {
          authority, account, now
          environment := metadata.preferredCache
          aliases := metadata.aliases
          clientId := app.clientId
          requestedScopes := scopes }
        response }).perform app.clientId account
      return issuedResult scopes account saved response) := rfl

/-- The accounts are listed in one access. -/
theorem accounts_eq : app.accounts = (do
    let metadata ← app.resolve app.authority
    (Access.list metadata).perform app.clientId none) := rfl

/-- An account is removed in one access. -/
theorem removeAccount_eq (account : Account) : app.removeAccount account = (do
    let _ ← app.resolve app.authority
    let aliases ← Action.view fun s => s.discovery.aliasesFor account.environment
    (Access.remove account.homeAccountId aliases).perform app.clientId (some account)) := rfl

end Application

/-! ### One access on a store -/

namespace Access

variable {a : Access} {s t : Store}

/-- The result of an access depends on the keys and the recognized fields. -/
theorem result_congr (h : s.bare = t.bare) : a.result s = a.result t := by
  suffices hbare : ∀ s : Store, a.result s.bare = a.result s by rw [← hbare s, h, hbare t]
  intro s
  cases a with
  | findOwn q =>
    show (s.bare.findAccessToken q).map _ = (s.findAccessToken q).map _
    rw [Store.findAccessToken_bare, Option.map_map]
    rfl
  | lookUp q => exact Store.offer_bare s q
  | save i => rfl
  | remove homeAccountId aliases =>
    show (s.bare.removeAccount homeAccountId aliases).1 = (s.removeAccount homeAccountId aliases).1
    rw [Store.removeAccount_bare]
  | list metadata =>
    show (s.accounts.bare.values.filter _).map _ = (s.accounts.values.filter _).map _
    rw [Bucket.values_filter_bare s.accounts fun _ => rfl, List.map_map]
    rfl

/-- What an access makes of the keys and the recognized fields depends on them alone. -/
theorem bare_apply_congr (h : s.bare = t.bare) : (a.apply s).bare = (a.apply t).bare := by
  suffices hbare : ∀ s : Store, (a.apply s).bare = a.apply s.bare by rw [hbare s, h, hbare t]
  intro s
  cases a with
  | findOwn q => rfl
  | lookUp q => rfl
  | save i => exact Store.bare_saveResponse s i
  | remove homeAccountId aliases => exact Store.bare_withoutAccount s homeAccountId aliases
  | list metadata => rfl

/-- An access to a cache from documents leaves one, if the scopes that are saved are words. -/
theorem documented_apply {c : TokenCache} (h : c.Documented) (hwords : a.InWords) :
    (c.modify a.apply).Documented := by
  have hstore : (a.apply c.store).Fits ∧ (a.apply c.store).Plain := by
    cases a with
    | findOwn q => exact ⟨h.fits, h.plain⟩
    | lookUp q => exact ⟨h.fits, h.plain⟩
    | save i =>
      refine ⟨h.fits.saveResponse i, h.plain.saveResponse (Issued.isWord_of_mem_target ?_ ?_)⟩
      · exact fun name hname => hwords name (List.mem_append_left _ hname)
      · exact fun name hname => hwords name (List.mem_append_right _ hname)
    | remove homeAccountId aliases =>
      exact ⟨h.fits.withoutAccount homeAccountId aliases,
        h.plain.withoutAccount homeAccountId aliases⟩
    | list metadata => exact ⟨h.fits, h.plain⟩
  exact ⟨hstore.1, hstore.2, h.baseline⟩

end Access

/-! ### One access on a storage -/

/-- The store that is persisted. -/
def Persisted.store? : Persisted → Option Store
  | .nothing => some .empty
  | .text t => TokenCache.parse? t
  | .unreadable => none

/-- What is persisted of a cache from documents says the keys and the recognized fields of its
store. -/
theorem TokenCache.Documented.parse?_save {c : TokenCache} (h : c.Documented) :
    ∃ stored, parse? c.save.1 = some stored ∧ stored.bare = c.store.bare := by
  refine ⟨c.document.reread, parse?_text h.save.fits, ?_⟩
  have hplain : c.document.Plain := h.save.plain
  rw [Store.bare_reread hplain, document]
  cases c.baseline with
  | none => rfl
  | some b => exact Store.bare_merge b c.store

/-- An access to a cache succeeds on a storage without faults. If it changed the cache, then that is
persisted, and otherwise everything stays as it is. -/
theorem Action.withCache_of_holding {α : Type} (clientId : String) (account : Option Account)
    (access : TokenCache → α × TokenCache) (services : Services) {s : Session} {c : TokenCache}
    {content : Persisted} (hstorage : s.storage = some (.holding content))
    (hopened : s.opened = .ok c) :
    ∃ t, withCache clientId account access services s = (.ok (access c).1, t) ∧
      ((access c).2.changed = false → t.storage = s.storage ∧ t.cache = (access c).2) ∧
      ((access c).2.changed = true →
        t.storage = some (.holding (.text (access c).2.save.1))) := by
  let u : Session := accessed clientId account s (access c).2
  have hcache : u.cache = (access c).2 := accessed_cache (access c).2
  have hsame : u.storage = s.storage := accessed_storage (access c).2
  cases hchanged : (access c).2.changed with
  | false =>
    have hstore : u.store = (.ok (), u) := by
      apply Session.store_of_clean
      intro storage hsome
      cases (hsame.trans hstorage).symm.trans hsome
      exact ⟨rfl, by rw [hcache, hchanged]⟩
    refine ⟨u, withCache_of_opened hopened hstore, fun _ => ⟨hsame, hcache⟩, ?_⟩
    intro hpersisted
    cases hpersisted
  | true =>
    have hstore : u.store = (.ok (), { u with
        storage := some (.holding (.text (access c).2.save.1))
        cache := (access c).2.save.2 }) := by
      unfold Session.store
      rw [hsame, hstorage, hcache]
      simp [Storage.store, Storage.holding, hchanged]
    refine ⟨_, withCache_of_opened hopened hstore, ?_, fun _ => rfl⟩
    intro hkept
    cases hkept

/-- An application makes an access on a storage without faults. If the access changes the store,
then the changed cache is persisted, and otherwise everything stays as it is. -/
theorem Access.perform_of_holding (a : Access) (clientId : String) (account : Option Account)
    (services : Services) {s : Session} {c : TokenCache} {content : Persisted}
    (hstorage : s.storage = some (.holding content)) (hopened : s.opened = .ok c)
    (hclean : c.changed = false) :
    ∃ t, a.perform clientId account services s = (.ok (a.result c.store), t) ∧
      ((a.apply = id ∧ t.storage = s.storage ∧ t.cache = c) ∨
        t.storage = some (.holding (.text (c.modify a.apply).save.1))) := by
  unfold perform apply
  cases a.change? with
  | none =>
    obtain ⟨t, hrun, hkept, _⟩ := Action.withCache_of_holding clientId account
      (fun cache => (a.result cache.store, cache)) services hstorage hopened
    exact ⟨t, hrun, .inl ⟨rfl, hkept hclean⟩⟩
  | some change =>
    obtain ⟨t, hrun, _, hpersisted⟩ := Action.withCache_of_holding clientId account
      (fun cache => (a.result cache.store, cache.modify change)) services hstorage hopened
    exact ⟨t, hrun, .inr (hpersisted rfl)⟩

/-! ### Accesses in turn -/

/-- A turn of an application: an access, for an account if there is one. -/
structure Turn where
  /-- Which application it is. -/
  index : Nat
  account : Option Account
  access : Access

/-- The store after the accesses of some turns. -/
def Store.afterTurns (s : Store) (turns : List Turn) : Store :=
  turns.foldl (fun s turn => turn.access.apply s) s

namespace Deployment

variable {d : Deployment} {s : Store}

/-- An application takes its turn. -/
def take (d : Deployment) (services : Services) (turn : Turn) :
    Option (Except Error turn.access.Result) × Deployment :=
  d.run services turn.index fun app => turn.access.perform app.clientId turn.account

/-- The deployment after some turns. -/
def afterTurns (d : Deployment) (services : Services) (turns : List Turn) : Deployment :=
  turns.foldl (fun d turn => (d.take services turn).2) d

/-- What is persisted says a store, and every application starts from there. Where nothing is
persisted, the store says nothing, and the applications are fresh. -/
inductive Holds (d : Deployment) (s : Store) : Prop
  | nothing (hstorage : d.storage = some (.holding .nothing))
      (hstore : Store.empty.bare = s.bare) (hfresh : ∀ m ∈ d.members, m.cache = .new)
  | text (text : String) (stored : Store) (hstorage : d.storage = some (.holding (.text text)))
      (hparse : TokenCache.parse? text = some stored) (hstore : stored.bare = s.bare)

/-- What is persisted says the keys and the recognized fields of the store. -/
theorem Holds.store? (h : d.Holds s) : ∃ stored,
    (d.storage.bind fun storage => storage.content.store?) = some stored ∧
      stored.bare = s.bare := by
  cases h with
  | nothing hstorage hstore _ =>
    rw [hstorage]
    exact ⟨.empty, rfl, hstore⟩
  | text text stored hstorage hparse hstore =>
    rw [hstorage]
    exact ⟨stored, hparse, hstore⟩

/-- Every application opens a cache that says the store. -/
theorem Holds.opened (h : d.Holds s) {m : Member} (hm : m ∈ d.members) :
    ∃ content c, (d.sessionOf m).storage = some (.holding content) ∧
      (d.sessionOf m).opened = .ok c ∧ c.Documented ∧ c.changed = false ∧
      c.store.bare = s.bare := by
  cases h with
  | nothing hstorage hstore hfresh =>
    have hopened : (d.sessionOf m).opened = .ok .new := by
      rw [Session.opened_eq_ok_iff]
      exact .inr ⟨_, hstorage, rfl, .inl ⟨rfl, (hfresh m hm).symm⟩⟩
    exact ⟨_, .new, hstorage, hopened,
      ⟨Store.fits_empty.1, Store.fits_empty.2, nofun⟩, rfl, hstore⟩
  | text text stored hstorage hparse hstore =>
    have hload : TokenCache.load? text = some ⟨stored, some stored, false⟩ := by
      rw [TokenCache.load?, hparse]
      rfl
    have hopened : (d.sessionOf m).opened = .ok ⟨stored, some stored, false⟩ := by
      rw [Session.opened_eq_ok_iff]
      exact .inr ⟨_, hstorage, rfl, .inr ⟨text, rfl, hload⟩⟩
    exact ⟨_, _, hstorage, hopened, TokenCache.documented_of_load? hload, rfl, hstore⟩

/-- A turn gives what the access gives on the store, and what is persisted afterwards says what the
access makes of it. -/
theorem Holds.take (h : d.Holds s) (services : Services) {turn : Turn}
    (hindex : turn.index < d.members.length) (hwords : turn.access.InWords) :
    (d.take services turn).1 = some (.ok (turn.access.result s)) ∧
      (d.take services turn).2.Holds (turn.access.apply s) := by
  let m := d.members[turn.index]
  have hm : d.members[turn.index]? = some m := List.getElem?_eq_getElem hindex
  obtain ⟨content, c, hstorage, hopened, hdocumented, hclean, hstore⟩ :=
    h.opened (List.getElem_mem hindex)
  obtain ⟨t, hperform, hafter⟩ := turn.access.perform_of_holding m.app.clientId turn.account
    services hstorage hopened hclean
  have htake : d.take services turn =
      (some (.ok (turn.access.result c.store)), d.afterSession turn.index m t) := by
    unfold Deployment.take run
    rw [hm]
    dsimp only
    rw [hperform]
  rw [htake]
  refine ⟨by rw [Access.result_congr hstore], ?_⟩
  rcases hafter with ⟨hid, hsame, hcache⟩ | hpersisted
  · -- nothing was changed, so what is persisted and the fresh applications are as they were
    rw [hid]
    cases h with
    | nothing hnothing hempty hfresh =>
      refine .nothing (hsame.trans hnothing) hempty ?_
      intro other hother
      rcases List.mem_or_eq_of_mem_set hother with hother | rfl
      · exact hfresh other hother
      · obtain ⟨_, ⟨_, hc⟩ | ⟨text, htext, _⟩⟩ := Session.loaded_of_opened hopened hnothing
        · exact hcache.trans (hc.trans (hfresh m (List.getElem_mem hindex)))
        · cases htext
    | text text stored htext hparse hstored =>
      exact .text text stored (hsame.trans htext) hparse hstored
  · obtain ⟨stored, hparse, hbare⟩ := (Access.documented_apply hdocumented hwords).parse?_save
    exact .text _ stored hpersisted hparse (hbare.trans (Access.bare_apply_congr hstore))

/-- No application comes or goes in a turn. -/
theorem length_members_take (d : Deployment) (services : Services) (turn : Turn) :
    (d.take services turn).2.members.length = d.members.length := by
  unfold Deployment.take run
  cases d.members[turn.index]? with
  | none => rfl
  | some m => simp [afterSession]

/-- The turns of the applications of a deployment, in which only words are saved as scopes. -/
def Admits (d : Deployment) (turns : List Turn) : Prop :=
  ∀ turn ∈ turns, turn.index < d.members.length ∧ turn.access.InWords

/-- After all turns, what is persisted says what the accesses make of the store. -/
theorem Holds.afterTurns (h : d.Holds s) (services : Services) {turns : List Turn}
    (hadmits : d.Admits turns) :
    (d.afterTurns services turns).Holds (s.afterTurns turns) ∧
      (d.afterTurns services turns).members.length = d.members.length := by
  induction turns generalizing d s with
  | nil => exact ⟨h, rfl⟩
  | cons turn rest ih =>
    obtain ⟨⟨hindex, hwords⟩, hrest⟩ := List.forall_mem_cons.1 hadmits
    have hlength := length_members_take d services turn
    have hadmits' : (d.take services turn).2.Admits rest := by
      intro other hother
      rw [hlength]
      exact hrest other hother
    obtain ⟨hholds, hmembers⟩ := ih (h.take services hindex hwords).2 hadmits'
    exact ⟨hholds, hmembers.trans hlength⟩

/-! ### Any sequence of accesses -/

/-- **One store for all.** Fresh applications share a storage that holds nothing or a document, and
take turns in any order. Then every access gives what it gives on the one store that was loaded from
the document and went through the same accesses, and what is persisted after it says the keys of
that store and the recognized fields of its records. -/
theorem shares_one_store (d : Deployment) (services : Services) (content : Persisted) (s : Store)
    (hfresh : ∀ m ∈ d.members, m.cache = .new) (hstorage : d.storage = some (.holding content))
    (hcontent : content.store? = some s) (before : List Turn) (turn : Turn)
    (hadmits : d.Admits (before ++ [turn])) :
    ((d.afterTurns services before).take services turn).1 =
        some (.ok (turn.access.result (s.afterTurns before))) ∧
      ∃ stored, ((d.afterTurns services (before ++ [turn])).storage.bind
          fun storage => storage.content.store?) = some stored ∧
        stored.bare = (s.afterTurns (before ++ [turn])).bare := by
  have hholds : d.Holds s := by
    cases content with
    | nothing =>
      cases hcontent
      exact .nothing hstorage rfl hfresh
    | text text => exact .text text s hstorage hcontent rfl
    | unreadable => cases hcontent
  obtain ⟨hbefore, hlast⟩ := List.forall_mem_append.1 hadmits
  obtain ⟨hindex, hwords⟩ := hlast turn List.mem_cons_self
  obtain ⟨hheld, hlength⟩ := hholds.afterTurns services hbefore
  exact ⟨(hheld.take services (hlength ▸ hindex) hwords).1,
    (hholds.afterTurns services hadmits).1.store?⟩

/-! ### Two applications -/

namespace Sample

open Application.Sample

/-- A fresh application. -/
def member : Member := ⟨application, .new, none⟩

/-- A document that knows the application. -/
def known : Store := Store.empty.putAppMetadata ⟨"client", "[::1]", none, .empty⟩

/-- Two fresh applications that share the document. -/
def pair : Deployment :=
  ⟨[member, member], .offline, ⟨1000⟩, some (.holding (.text known.text)), .empty⟩

/-- The first application saves a token of the account. -/
def saving : Turn where
  index := 0
  account := some account
  access := .save {
    context := {
      authority := application.authority
      environment := "[::1]"
      aliases := ["[::1]"]
      clientId := "client"
      requestedScopes := .ofText "read"
      account := some account
      now := ⟨1000⟩ }
    response := ⟨"at", none, none, ⟨9000⟩, none, none, .ofText "read write", none, none⟩ }

/-- The second application lists the accounts. -/
def listing : Turn := ⟨1, none, .list (.forSelf "[::1]")⟩

end Sample

/-- The second application lists the account of which the first one has saved a token. -/
theorem shares_one_store_listed :
    (∀ m ∈ Sample.pair.members, m.cache = .new) ∧
      (Persisted.text Sample.known.text).store? = some Sample.known.reread ∧
      Sample.pair.Admits [Sample.saving, Sample.listing] ∧
      ((Sample.pair.afterTurns Application.Sample.down [Sample.saving]).take Application.Sample.down
        Sample.listing).1 = some (.ok [Application.Sample.account]) := by
  have hfresh : ∀ m ∈ Sample.pair.members, m.cache = .new := by
    intro m hm
    simp only [Sample.pair, List.mem_cons, List.not_mem_nil, or_false, or_self] at hm
    rw [hm]
    rfl
  have hfits : Sample.known.Fits := {
    Store.fits_empty.1 with
    appMetadata := Bucket.forall_values_put Store.fits_empty.1.appMetadata
      (Store.fits_of_extra_eq_empty rfl) }
  have hcontent : (Persisted.text Sample.known.text).store? = some Sample.known.reread :=
    TokenCache.parse?_text hfits
  have hadmits : Sample.pair.Admits [Sample.saving, Sample.listing] := by
    intro turn hturn
    simp only [List.mem_cons, List.not_mem_nil, or_false] at hturn
    rcases hturn with rfl | rfl
    · refine ⟨by decide, ?_⟩
      intro name hname
      rcases List.mem_append.1 hname with hname | hname <;>
        exact isWord_of_mem_words (Scopes.mem_names_ofText.1 hname)
    · exact ⟨by decide, trivial⟩
  have hlisted : (((Sample.known.reread.afterTurns [Sample.saving]).accounts.values.filter fun r =>
      (InstanceMetadata.forSelf "[::1]").hasAlias r.environment).map Account.ofRecord) =
        [Application.Sample.account] := by
    decide +kernel
  refine ⟨hfresh, hcontent, hadmits, ?_⟩
  rw [← hlisted]
  exact (shares_one_store Sample.pair Application.Sample.down _ _ hfresh rfl hcontent
    [Sample.saving] Sample.listing hadmits).1

end Deployment

end SilentAuth
