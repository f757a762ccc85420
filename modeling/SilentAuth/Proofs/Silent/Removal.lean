import SilentAuth.Proofs.Cache.Removal
import SilentAuth.Proofs.Silent.Asking
import SilentAuth.Proofs.Silent.Reached
import SilentAuth.Proofs.Silent.Renewal

/-!
# Accounts that are listed, used and removed

Listing accounts, acquiring a token for one of them, and removing it look for the account under
hosts that each finds out in its own way: the names of the application's host, those names or the
ones of the host of the account, and the latter alone. They agree if the alias sets in the map of
hosts are apart once the accounts are listed; before, the map may be empty, and then this says
nothing.

* `Application.Ready`: a session in which nothing has to be asked and the cache can be read.
* `Application.Forgets`: what it means that an account is gone.
* `Application.listed_account_is_removable`: an account that was listed is found by an acquisition,
  and removing it makes the application forget it, if the storage can be written.
* `Application.removed_account_is_found`: an account that is found after it was removed, since the
  endpoint told alias sets that overlap.
-/

namespace SilentAuth

open Session SilentAuth.Action

/-- The storage of a settled session has no faults. -/
theorem Session.Settled.faultless {s : Session} {c : TokenCache} (h : s.Settled c) : s.Faultless :=
  fun storage hstorage => ⟨(loaded_of_opened h.opened hstorage).1, (h.clean storage hstorage).1⟩

namespace Application

variable {app : Application} {hook : Storage → Prop} {services : Services} {s t u : Session}
  {m : InstanceMetadata} {found : TokenCache} {account : Account}

/-! ### Sessions in which an application can go on -/

/-- A session in which the host of the application is known and the next access finds a cache that it
can read. -/
structure Ready (app : Application) (t : Session) (m : InstanceMetadata) (found : TokenCache) :
    Prop where
  cached : t.discovery.cached? app.authority.host = some m
  settled : t.Settled found

/-- No one is asked about the host of the application. -/
theorem Ready.resolve (h : app.Ready t m found) {authority : Authority}
    (hhost : authority.host = app.authority.host) (services : Services) :
    app.resolve authority services t = (.ok m, t) :=
  resolve_of_cached (hhost ▸ h.cached) _ services

/-- The accounts under the names of the host are listed. -/
theorem Ready.accounts (h : app.Ready t m found) (services : Services) :
    app.accounts services t =
      (.ok ((found.store.accounts.values.filter fun r => m.hasAlias r.environment).map
        Account.ofRecord), accessed app.clientId none t found) := by
  unfold Application.accounts
  rw [bind_of_eq_ok (h.resolve rfl services)]
  exact reading_of_settled h.settled app.clientId none _ services

/-- Listing accounts finds out about the host of the application, and about no other hosts. -/
theorem discovery_accounts (services : Services) (s : Session) :
    (app.accounts services s).2.discovery =
      (app.resolve app.authority services s).2.discovery := by
  rcases hrun : app.accounts services s with ⟨result, t⟩
  rcases bind_cases hrun with ⟨e, hresolve, _⟩ | ⟨m, resolved, hresolve, hreading⟩
  · rw [hresolve]
  · rw [hresolve]
    exact (withCache_sameSurroundings hreading).discovery

/-- Accounts that were listed are listed again, from the cache that is found then. -/
theorem exists_ready_of_accounts (hs : app.Reached hook s) {listed : List Account}
    (h : app.accounts services s = (.ok listed, t)) :
    ∃ m found, app.Ready t m found ∧ ∀ a ∈ listed, m.hasAlias a.environment = true ∧
      ∃ r ∈ found.store.accounts.values, Account.ofRecord r = a := by
  unfold Application.accounts at h
  obtain ⟨m, resolved, hresolve, hreading⟩ := bind_eq_ok_iff.1 h
  have hsame := resolve_sameAccess hresolve
  obtain ⟨c, hopened, rfl, hstored, hsurroundings⟩ := reading_eq_ok hreading
  have hfits : resolved.storage.isSome = true → c.document.Fits := by
    intro _
    obtain ⟨hstore, hbaseline⟩ := hs.fits (hsame.opened ▸ hopened)
    exact TokenCache.fits_document hstore hbaseline
  obtain ⟨found, hsettled, hstore⟩ := hstored.exists_settled hopened (.inl rfl) hfits
  refine ⟨m, found, ⟨?_, hsettled⟩, ?_⟩
  · rw [hsurroundings.discovery]
    exact cached?_resolve_of_eq_ok hresolve
  · intro a ha
    obtain ⟨r, hr, rfl⟩ := List.mem_map.1 ha
    obtain ⟨hcached, hnamed⟩ := List.mem_filter.1 hr
    refine ⟨hnamed, ?_⟩
    obtain ⟨key, hkey⟩ := Dict.mem_values_iff.1 hcached
    have hechoes : Bucket.Echoes id c.store.accounts found.store.accounts := by
      rw [hstore]
      exact TokenCache.echoes_accounts_kept
    obtain ⟨extra, hread⟩ := hechoes.find? hkey
    exact ⟨_, Dict.mem_values_iff.2 ⟨key, hread⟩, rfl⟩

/-! ### Acquiring -/

/-- An account that has a record under the names of the host is not missed. -/
theorem Ready.acquire_ne_noAccount (h : app.Ready t m found)
    (hnamed : m.hasAlias account.environment = true)
    (hrecord : ∃ r ∈ found.store.accounts.values, Account.ofRecord r = account) (scopes : Scopes)
    (force : Bool) (services : Services) :
    (app.acquire (.account account scopes force) services t).1 ≠
      .error (.cacheMiss .noAccount) := by
  show (app.acquireFor account scopes force services t).1 ≠ _
  cases hauthority : app.authorityFor account with
  | error e =>
    have hrun : app.acquireFor account scopes force services t = (.error e, t) :=
      bind_of_eq_error (Prod.ext hauthority rfl)
    obtain ⟨_, rfl⟩ := authorityFor_eq_error hauthority
    rw [hrun]
    exact nofun
  | ok authority =>
    have hresolve := h.resolve (authorityFor_kind_host hauthority).2 services
    rw [acquireFor_of_settled hauthority hresolve h.settled]
    split
    · rename_i offer _
      cases offer with
      | hit result => exact nofun
      | refresh plan =>
        have hfaultless : (accessed app.clientId (some account) t found).Faultless := by
          intro storage hstorage
          rw [accessed_storage] at hstorage
          exact h.settled.faultless storage hstorage
        exact (refresh_cases hfaultless (Prod.ext rfl rfl)).2 .noAccount
    · rename_i miss hoffer
      intro hmissed
      cases hmissed
      have hnone := Store.offer_eq_noAccount_iff.1 hoffer
      have haliases : accountAliases m t.discovery account = m.aliases := if_pos hnamed
      obtain ⟨r, hr, rfl⟩ := hrecord
      rw [haliases, Store.accountFor, ← Option.not_isSome_iff_eq_none,
        Store.findAccount_isSome_iff] at hnone
      exact hnone ⟨r, hr, Bool.and_eq_true_iff.2 ⟨sameText_refl r.homeAccountId, hnamed⟩⟩

/-! ### Forgetting -/

/-- An application has forgotten an account: under the names of its host it is not listed, an
acquisition misses it, and if there is a storage, a document is persisted that holds nothing of
it. -/
structure Forgets (app : Application) (account : Account) (u : Session) : Prop where
  unlisted : ∀ services, ∃ others v, app.accounts services u = (.ok others, v) ∧
    ∀ other ∈ others, Store.belongs account.homeAccountId
      (u.discovery.aliasesFor account.environment) other.homeAccountId other.environment = false
  missed : ∀ services scopes force, (app.acquire (.account account scopes force) services u).1 =
    .error (.cacheMiss .noAccount)
  erased : ∀ storage, u.storage = some storage → ∃ text store, storage.content = .text text ∧
    TokenCache.parse? text = some store ∧
    store.Without account.homeAccountId (u.discovery.aliasesFor account.environment)

/-- An application in whose cache nothing of an account is found has forgotten it, if alias sets are
apart. -/
theorem Ready.forgets (h : app.Ready u m found) (hauthority : app.authority.Named)
    (hbuilt : u.discovery.Built) (hpartitioned : u.discovery.Partitioned)
    (hslash : '/' ∉ account.tenantId.toList) (hnamed : m.hasAlias account.environment = true)
    (hwithout : found.store.Without account.homeAccountId
      (u.discovery.aliasesFor account.environment))
    (herased : ∀ storage, u.storage = some storage → ∃ text store,
      storage.content = .text text ∧ TokenCache.parse? text = some store ∧
      store.Without account.homeAccountId (u.discovery.aliasesFor account.environment)) :
    app.Forgets account u where
  unlisted := by
    intro services
    refine ⟨_, _, h.accounts services, ?_⟩
    intro other hother
    obtain ⟨r, hr, rfl⟩ := List.mem_map.1 hother
    exact hwithout.accounts r (List.mem_of_mem_filter hr)
  missed := by
    intro services scopes force
    obtain ⟨authority, hasked⟩ := exists_authorityFor_of_plain hauthority hslash
    have hresolve := h.resolve (authorityFor_kind_host hasked).2 services
    have haliases : accountAliases m u.discovery account = m.aliases := if_pos hnamed
    have hoffer : found.store.offer (app.accountQuery authority account scopes force
        (accountAliases m u.discovery account) u.now) = .error .noAccount := by
      rw [Store.offer_eq_noAccount_iff, haliases]
      exact hwithout.findAccount_eq_none (hbuilt.listed_aliasesFor hpartitioned h.cached hnamed) _
    show (app.acquireFor account scopes force services u).1 = _
    rw [acquireFor_of_settled hasked hresolve h.settled, hoffer]
  erased := herased

/-! ### Removing -/

/-- What the removal of an account comes to: the cache that is found is changed. -/
theorem Ready.removeAccount (h : app.Ready t m found) (account : Account) (services : Services) :
    app.removeAccount account services t = changing app.clientId (some account)
      (fun store => (store.removeAccount account.homeAccountId
        (t.discovery.aliasesFor account.environment)).1)
      (·.withoutAccount account.homeAccountId (t.discovery.aliasesFor account.environment))
      services t := by
  unfold Application.removeAccount
  rw [bind_of_eq_ok (h.resolve rfl services), view_bind]
  rfl

/-- Removing an account fails only if the storage cannot be written. -/
theorem Ready.removeAccount_eq_error (h : app.Ready t m found) {e : Error}
    (hremoved : app.removeAccount account services t = (.error e, u)) :
    e = .storage ∧ ∃ storage, t.storage = some storage ∧ storage.writable = false := by
  rw [h.removeAccount] at hremoved
  rcases withCache_eq_error hremoved with hopened | ⟨storage, c, hstorage, _, hstore⟩
  · cases hopened.symm.trans h.settled.opened
  · obtain ⟨rfl, hwritable⟩ := Storage.store_error (h.settled.clean storage hstorage).1 hstore
    exact ⟨rfl, storage, hstorage, hwritable⟩

/-- Removing an account that has a record drops at least that. -/
theorem Ready.removeAccount_pos (h : app.Ready t m found) (hbuilt : t.discovery.Built)
    (hpartitioned : t.discovery.Partitioned) (hnamed : m.hasAlias account.environment = true)
    (hrecord : ∃ r ∈ found.store.accounts.values, Account.ofRecord r = account) {n : Nat}
    (hremoved : app.removeAccount account services t = (.ok n, u)) : 0 < n := by
  rw [h.removeAccount] at hremoved
  obtain ⟨c, hopened, rfl, _⟩ := changing_eq_ok hremoved
  obtain rfl : c = found := Except.ok.inj (hopened.symm.trans h.settled.opened)
  -- the account goes by a name of its own host
  obtain ⟨r, hr, rfl⟩ := hrecord
  have haliases := hbuilt.listed_aliasesFor hpartitioned h.cached hnamed r.environment
  exact Store.removeAccount_pos hr
    (Bool.and_eq_true_iff.2 ⟨sameText_refl r.homeAccountId, haliases.trans hnamed⟩)

/-- After an account was removed, the application has forgotten it. -/
theorem Ready.forgets_of_removed (h : app.Ready t m found) (hauthority : app.authority.Named)
    (ht : app.Reached hook t) (hpartitioned : t.discovery.Partitioned)
    (hslash : '/' ∉ account.tenantId.toList) (hnamed : m.hasAlias account.environment = true)
    {n : Nat} (hremoved : app.removeAccount account services t = (.ok n, u)) :
    app.Forgets account u := by
  rw [h.removeAccount] at hremoved
  obtain ⟨c, hopened, _, hstored, hsame⟩ := changing_eq_ok hremoved
  have hbuilt : u.discovery.Built := hsame.discovery ▸ ht.built
  rw [← hsame.discovery] at hpartitioned
  have haliases : t.discovery.aliasesFor account.environment =
      u.discovery.aliasesFor account.environment := by
    rw [hsame.discovery]
  rw [haliases] at hstored
  obtain ⟨hfits, hbaseline⟩ := ht.fits hopened
  have hdocument := TokenCache.fits_document (c := c.modify (·.withoutAccount account.homeAccountId
    (u.discovery.aliasesFor account.environment))) (hfits.withoutAccount _ _) hbaseline
  obtain ⟨next, hsettled, hstore⟩ := hstored.exists_settled hopened (.inr rfl) fun _ => hdocument
  have hready : app.Ready u m next := ⟨hsame.discovery ▸ h.cached, hsettled⟩
  have hwithout := Store.without_withoutAccount c.store account.homeAccountId
    (u.discovery.aliasesFor account.environment)
  refine hready.forgets hauthority hbuilt hpartitioned hslash hnamed ?_ ?_
  · rw [hstore]
    exact TokenCache.without_kept hwithout _
  · -- what is persisted is the document without the account
    intro storage hstorage
    exact ⟨_, _, hstored.content_eq rfl hstorage, TokenCache.parse?_text hdocument,
      (TokenCache.without_document hwithout).reread⟩

/-- **Listing, acquiring and removing agree.** If alias sets are apart once accounts were listed, then
no acquisition for one of them misses it, whose tenant has no separator in it. Removing it drops at
least one record, and the application forgets it, unless the storage cannot be written. -/
theorem listed_account_is_removable (hauthority : app.authority.Named) (hs : app.Reached hook s)
    {listed : List Account} (h : app.accounts services s = (.ok listed, t))
    (hpartitioned : t.discovery.Partitioned) (hlisted : account ∈ listed)
    (hslash : '/' ∉ account.tenantId.toList) (services' : Services) :
    (∀ scopes force, (app.acquire (.account account scopes force) services' t).1 ≠
      .error (.cacheMiss .noAccount)) ∧
    ((∃ n u, app.removeAccount account services' t = (.ok n, u) ∧ 0 < n ∧
        app.Forgets account u) ∨
      ∃ u storage, app.removeAccount account services' t = (.error .storage, u) ∧
        t.storage = some storage ∧ storage.writable = false) := by
  obtain ⟨m, found, hready, hrecords⟩ := exists_ready_of_accounts hs h
  obtain ⟨hnamed, hrecord⟩ := hrecords account hlisted
  have ht : app.Reached hook t := by
    have hperformed : app.perform services s .accounts = t := congrArg Prod.snd h
    exact hperformed ▸ hs.perform services .accounts
  refine ⟨fun scopes force => hready.acquire_ne_noAccount hnamed hrecord scopes force services', ?_⟩
  rcases hremoved : app.removeAccount account services' t with ⟨n | n, u⟩
  · obtain ⟨rfl, storage, hstorage, hwritable⟩ := hready.removeAccount_eq_error hremoved
    exact .inr ⟨u, storage, rfl, hstorage, hwritable⟩
  · exact .inl ⟨n, u, rfl,
      hready.removeAccount_pos ht.built hpartitioned hnamed hrecord hremoved,
      hready.forgets_of_removed hauthority ht hpartitioned hslash hnamed hremoved⟩

/-! ### Alias sets that overlap -/

namespace Sample

/-- What is cached of a user who signed in under two hosts. -/
def sharedText : String :=
  "\x7b\"Account\":\x7b\"a\":\x7b\"home_account_id\":\"u.t\",\"environment\":\"[::1]\",\"realm\":" ++
    "\"t\"\x7d,\"b\":\x7b\"home_account_id\":\"u.t\",\"environment\":\"b.example\",\"realm\":\"t\"" ++
    "\x7d\x7d\x7d"

/-- A session before anyone asked about hosts, whose cache is persisted. -/
def sharing (writable : Bool) : Session :=
  ⟨.new, .asking, ⟨1000⟩, some ⟨.text sharedText, writable, none, none⟩, .empty⟩

/-- The instance to which both hosts belong. -/
def instanceOfBoth : InstanceMetadata := ⟨"[::1]", "[::1]", ["[::1]", "b.example"]⟩

/-- An endpoint that names the instance, and then others. -/
def naming (others : List InstanceMetadata) : Services :=
  ⟨fun _ _ => some ⟨some "https://tenant.example/", instanceOfBoth :: others⟩,
    fun _ _ => ⟨.error .unspecified, none, ⟨0⟩⟩⟩

/-- An endpoint that says of the second host afterwards that it has no other name. -/
def contradicting : Services := naming [.forSelf "b.example"]

/-- The user, as signed in under each of the hosts. -/
def users : List Account :=
  [⟨"u.t", "[::1]", "t", none, none⟩, ⟨"u.t", "b.example", "t", none, none⟩]

/-- The user, as signed in under the second host. -/
def secondUser : Account := ⟨"u.t", "b.example", "t", none, none⟩

/-- The accounts that are listed, and the session afterwards. -/
def listing (services : Services) (writable : Bool) : Except Error (List Account) × Session :=
  application.accounts services (sharing writable)

/-- How many records go when the user under the second host is removed, and the session
afterwards. -/
def removal (services : Services) (writable : Bool) : Except Error Nat × Session :=
  application.removeAccount secondUser services (listing services writable).2

/-- The application reaches the session in which others have persisted their caches. -/
theorem reached_sharing (writable : Bool) :
    application.Reached (fun _ => True) (sharing writable) :=
  .start rfl .asking fun _ _ => trivial

/-- If the endpoint names the instance alone, there is only one entry. -/
theorem partitioned_listing : (listing (naming []) true).2.discovery.Partitioned := by
  have hhosts : (listing (naming []) true).2.discovery.hosts =
      (DiscoveryCache.asking.registerAll [instanceOfBoth]).hosts := by
    rw [listing, discovery_accounts]
    decide +kernel
  have hentry : ∀ host m, (listing (naming []) true).2.discovery.cached? host = some m →
      m = instanceOfBoth := by
    intro host m hm
    rw [DiscoveryCache.cached?, hhosts] at hm
    have hfound := DiscoveryCache.cached?_registerAll .asking [instanceOfBoth] host
    rw [DiscoveryCache.cached?, hm] at hfound
    by_cases hhost : instanceOfBoth.hasAlias host = true
    · simpa [hhost] using hfound
    · simp only [List.filter_cons, hhost, List.filter_nil] at hfound
      cases hfound
  intro host host' m m' hm hm'
  rw [hentry host m hm, hentry host' m' hm']
  exact instanceOfBoth.agrees_self

end Sample

/-- The user is listed under both hosts, and forgotten once removed under the second one, since the
endpoint says that both belong together. -/
theorem listed_account_is_removable_shared :
    Sample.application.authority.Named ∧
      Sample.application.Reached (fun _ => True) (Sample.sharing true) ∧
      (Sample.listing (Sample.naming []) true).1 = .ok Sample.users ∧
      (Sample.listing (Sample.naming []) true).2.discovery.Partitioned ∧
      Sample.secondUser ∈ Sample.users ∧ '/' ∉ Sample.secondUser.tenantId.toList ∧
      ∃ n u, Sample.removal (Sample.naming []) true = (.ok n, u) ∧ 0 < n ∧
        Sample.application.Forgets Sample.secondUser u := by
  have hlisted : (Sample.listing (Sample.naming []) true).1 = .ok Sample.users ∧
      (Sample.listing (Sample.naming []) true).2.storage.map Storage.writable = some true := by
    decide +kernel
  obtain ⟨hlisted, hwritable⟩ := hlisted
  have hmem : Sample.secondUser ∈ Sample.users := by decide
  have hslash : '/' ∉ Sample.secondUser.tenantId.toList := by decide
  refine ⟨Sample.named_authority, Sample.reached_sharing true, hlisted, Sample.partitioned_listing,
    hmem, hslash, ?_⟩
  have hrun : Sample.listing (Sample.naming []) true =
      (.ok Sample.users, (Sample.listing (Sample.naming []) true).2) := by rw [← hlisted]
  obtain ⟨_, hremoved | ⟨_, storage, _, hstorage, hreadOnly⟩⟩ :=
    listed_account_is_removable Sample.named_authority (Sample.reached_sharing true) hrun
      Sample.partitioned_listing hmem hslash (Sample.naming [])
  · exact hremoved
  · rw [hstorage, Option.map_some, hreadOnly] at hwritable
    cases hwritable

/-- A user who is listed under two hosts is still found under the second one after being removed
there, though alias sets were apart before the accounts were listed, when no host was known: listing
them brings in an answer whose alias sets overlap. And even if they do not, nothing is removed where
the storage cannot be written. -/
theorem removed_account_is_found :
    Sample.application.authority.Named ∧
      Sample.application.Reached (fun _ => True) (Sample.sharing true) ∧
      (Sample.sharing true).discovery.Partitioned ∧
      Sample.secondUser ∈ Sample.users ∧ '/' ∉ Sample.secondUser.tenantId.toList ∧
      (Sample.listing Sample.contradicting true).1 = .ok Sample.users ∧
      (Sample.removal Sample.contradicting true).1 = .ok 1 ∧
      (Sample.application.acquire (.account Sample.secondUser .empty false) Sample.contradicting
        (Sample.removal Sample.contradicting true).2).1 = .error (.cacheMiss .noRefreshToken) ∧
      (Sample.listing (Sample.naming []) false).1 = .ok Sample.users ∧
      (Sample.removal (Sample.naming []) false).1 = .error .storage := by
  refine ⟨Sample.named_authority, Sample.reached_sharing true, ?_, by decide, by decide, ?_⟩
  · intro host host' m m' hm
    cases hm
  · decide +kernel

end Application

end SilentAuth
