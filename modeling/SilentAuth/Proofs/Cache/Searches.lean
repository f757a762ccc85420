import SilentAuth.Decision
import SilentAuth.Proofs.Cache.Removal

/-!
# What is looked for on behalf of an account

There are eight ways to look for something of an account in a store. Each of them sees only the records
that are of the account under the hosts of the search, and what is known about applications. So an account
that was removed is found in no way, and no other account is found in another way than before.

* `Search`: what can be looked for.
* `Search.find?_congr`: stores that hold the same of an account answer alike.
* `Store.removeAccount_sweeps`: what is removed with an account, and what is found afterwards.
-/

namespace SilentAuth

variable {α : Type}

/-! ### Lists that agree on a part -/

/-- What passes a test is the same in two lists that agree on a part which all of it belongs to. -/
theorem filter_congr_of_imp {test part : α → Bool} {l l' : List α}
    (himp : ∀ x, test x = true → part x = true) (h : l.filter part = l'.filter part) :
    l.filter test = l'.filter test := by
  have hpart (l : List α) : l.filter test = (l.filter part).filter test := by
    rw [List.filter_filter]
    refine List.filter_congr fun x _ => ?_
    cases htest : test x with
    | false => rfl
    | true => rw [himp x htest, Bool.and_self]
  rw [hpart l, hpart l', h]

/-- So is the first that passes it. -/
theorem find?_congr_of_imp {test part : α → Bool} {l l' : List α}
    (himp : ∀ x, test x = true → part x = true) (h : l.filter part = l'.filter part) :
    l.find? test = l'.find? test := by
  rw [← List.head?_filter, ← List.head?_filter, filter_congr_of_imp himp h]

/-! ### Searches -/

/-- What can be looked for on behalf of a home account. -/
inductive Search where
  /-- A valid access token. -/
  | accessToken (q : AccessTokenQuery)
  /-- The access token that expires last. -/
  | latestAccessToken (q : AccessTokenQuery)
  /-- A refresh token of a client. -/
  | refreshToken (home clientId : String) (aliases : List String)
  /-- A refresh token of a family of clients. -/
  | familyRefreshToken (home familyId : String) (aliases : List String)
  /-- A refresh token of any family of clients. -/
  | anyFamilyRefreshToken (home : String) (aliases : List String)
  /-- The refresh token that a client redeems. -/
  | selectedRefreshToken (home clientId : String) (aliases : List String)
  /-- An ID token. -/
  | idToken (home realm clientId : String) (aliases : List String)
  /-- A record of the account, one for a tenant before others. -/
  | account (home : String) (realm : Option String) (aliases : List String)

namespace Search

/-- The home account on whose behalf something is looked for; it is blank for the application itself. -/
def home : Search → String
  | accessToken q => q.homeAccountId.getD ""
  | latestAccessToken q => q.homeAccountId.getD ""
  | refreshToken home _ _ => home
  | familyRefreshToken home _ _ => home
  | anyFamilyRefreshToken home _ => home
  | selectedRefreshToken home _ _ => home
  | idToken home _ _ _ => home
  | account home _ _ => home

/-- The hosts under which it is looked for. -/
def aliases : Search → List String
  | accessToken q => q.aliases
  | latestAccessToken q => q.aliases
  | refreshToken _ _ aliases => aliases
  | familyRefreshToken _ _ aliases => aliases
  | anyFamilyRefreshToken _ aliases => aliases
  | selectedRefreshToken _ _ aliases => aliases
  | idToken _ _ _ aliases => aliases
  | account _ _ aliases => aliases

/-- What a store answers. -/
def find? (s : Store) : Search → Option Entry
  | accessToken q => (s.findAccessToken q).map .accessToken
  | latestAccessToken q => (s.findLatestAccessToken q).map .accessToken
  | refreshToken home clientId aliases =>
    (s.findRefreshToken home clientId aliases).map .refreshToken
  | familyRefreshToken home familyId aliases =>
    (s.findFamilyRefreshToken home familyId aliases).map .refreshToken
  | anyFamilyRefreshToken home aliases =>
    (s.findAnyFamilyRefreshToken home aliases).map .refreshToken
  | selectedRefreshToken home clientId aliases =>
    (s.selectRefreshToken home clientId aliases).map .refreshToken
  | idToken home realm clientId aliases =>
    (s.findIdToken home realm clientId aliases).map .idToken
  | account home realm aliases => (s.findAccount home realm aliases).map .account

end Search

/-! ### Stores that answer alike -/

namespace Store

/-- Two stores hold the same of an account under some hosts, and the same about applications. -/
structure AgreesOn (home : String) (aliases : List String) (s t : Store) : Prop where
  accessTokens :
    s.accessTokens.values.filter (fun r => belongs home aliases r.homeAccountId r.environment) =
      t.accessTokens.values.filter fun r => belongs home aliases r.homeAccountId r.environment
  refreshTokens :
    s.refreshTokens.values.filter (fun r => belongs home aliases r.homeAccountId r.environment) =
      t.refreshTokens.values.filter fun r => belongs home aliases r.homeAccountId r.environment
  idTokens :
    s.idTokens.values.filter (fun r => belongs home aliases r.homeAccountId r.environment) =
      t.idTokens.values.filter fun r => belongs home aliases r.homeAccountId r.environment
  accounts : s.accountRecords home aliases = t.accountRecords home aliases
  appMetadata : s.appMetadata = t.appMetadata

variable {home : String} {aliases : List String} {s t : Store}

/-- A store that holds nothing of an account holds the same of it as one that only knows
applications. -/
theorem Without.agreesOn (h : s.Without home aliases) :
    s.AgreesOn home aliases { Store.empty with appMetadata := s.appMetadata } where
  accessTokens := List.filter_eq_nil_iff.2 fun r hr => by simp [h.accessTokens r hr]
  refreshTokens := List.filter_eq_nil_iff.2 fun r hr => by simp [h.refreshTokens r hr]
  idTokens := List.filter_eq_nil_iff.2 fun r hr => by simp [h.idTokens r hr]
  accounts := List.filter_eq_nil_iff.2 fun r hr => by simp [h.accounts r hr]
  appMetadata := rfl

namespace AgreesOn

/-- Stores that agree on an account have the same refresh token for a client. -/
theorem findRefreshToken (h : s.AgreesOn home aliases t) (clientId : String) :
    s.findRefreshToken home clientId aliases = t.findRefreshToken home clientId aliases :=
  find?_congr_of_imp (by simp +contextual) h.refreshTokens

/-- They have the same refresh token for a family. -/
theorem findFamilyRefreshToken (h : s.AgreesOn home aliases t) (familyId : String) :
    s.findFamilyRefreshToken home familyId aliases =
      t.findFamilyRefreshToken home familyId aliases :=
  find?_congr_of_imp (by simp +contextual) h.refreshTokens

/-- They have the same refresh token for any family. -/
theorem findAnyFamilyRefreshToken (h : s.AgreesOn home aliases t) :
    s.findAnyFamilyRefreshToken home aliases = t.findAnyFamilyRefreshToken home aliases :=
  find?_congr_of_imp (by simp +contextual) h.refreshTokens

end AgreesOn

end Store

/-- A query matches records of its home account under its hosts. -/
theorem AccessTokenQuery.belongs_of_isMatch {q : AccessTokenQuery} {r : AccessTokenRecord}
    (h : q.isMatch r = true) :
    Store.belongs (q.homeAccountId.getD "") q.aliases r.homeAccountId r.environment = true := by
  obtain ⟨hhome, hhost, _⟩ := isMatch_iff.1 h
  rw [Store.belongs, hhome, hhost, Bool.and_self]

namespace Search

variable {search : Search} {s t : Store}

/-- Stores that hold the same of an account, and the same about applications, answer alike. -/
theorem find?_congr (h : s.AgreesOn search.home search.aliases t) :
    search.find? s = search.find? t := by
  cases search <;> simp only [home, aliases] at h
  case accessToken q =>
    refine congrArg (Option.map _) (find?_congr_of_imp ?_ h.accessTokens)
    intro r hr
    exact AccessTokenQuery.belongs_of_isMatch (Bool.and_eq_true_iff.1 hr).1
  case latestAccessToken q =>
    refine congrArg (Option.map _) (congrArg longestLived ?_)
    exact filter_congr_of_imp (fun r => AccessTokenQuery.belongs_of_isMatch) h.accessTokens
  case refreshToken home clientId aliases =>
    exact congrArg (Option.map _) (h.findRefreshToken clientId)
  case familyRefreshToken home familyId aliases =>
    exact congrArg (Option.map _) (h.findFamilyRefreshToken familyId)
  case anyFamilyRefreshToken home aliases =>
    exact congrArg (Option.map _) h.findAnyFamilyRefreshToken
  case selectedRefreshToken home clientId aliases =>
    have hfamily : s.familyIdFor clientId aliases = t.familyIdFor clientId aliases := by
      rw [Store.familyIdFor, Store.familyIdFor, h.appMetadata]
    simp only [find?, Store.selectRefreshToken, hfamily, h.findRefreshToken,
      h.findFamilyRefreshToken, h.findAnyFamilyRefreshToken]
  case idToken home realm clientId aliases =>
    refine congrArg (Option.map _) (find?_congr_of_imp ?_ h.idTokens)
    simp +contextual
  case account home realm aliases =>
    simp only [find?, Store.findAccount, h.accounts]

/-- Nothing is found of an account of which nothing is held. -/
theorem find?_eq_none (h : s.Without search.home search.aliases) : search.find? s = none := by
  rw [find?_congr h.agreesOn]
  cases search with
  | selectedRefreshToken home clientId aliases =>
    simp only [find?, Option.map_eq_none_iff, Store.selectRefreshToken]
    split <;> rfl
  | account home realm aliases => cases realm <;> rfl
  | _ => rfl

end Search

/-! ### When an account was removed -/

namespace Store

variable {home home' : String} {aliases aliases' : List String} {s : Store}

/-- No record is of two accounts. -/
theorem belongs_eq_false_of_belongs (hhome : sameText home' home = false)
    {recordHome recordHost : String} (h : belongs home' aliases' recordHome recordHost = true) :
    belongs home aliases recordHome recordHost = false := by
  rw [sameText_eq_false_iff] at hhome
  rw [← Bool.not_eq_true, belongs_iff]
  exact fun hother => hhome ((belongs_iff.1 h).1.symm.trans hother.1)

/-- A record that is of an account under some of the hosts is of it under all of them. -/
theorem belongs_of_subset (hhome : sameText home' home = true)
    (hhosts : ∀ host ∈ aliases', listed host aliases = true) {recordHome recordHost : String}
    (h : belongs home' aliases' recordHome recordHost = true) :
    belongs home aliases recordHome recordHost = true := by
  obtain ⟨hsame, host, hhost, hhostSame⟩ := belongs_iff.1 h
  obtain ⟨other, hother, hotherSame⟩ := listed_iff.1 (hhosts host hhost)
  exact belongs_iff.2 ⟨hsame.trans (sameText_iff.1 hhome), other, hother, hotherSame.trans hhostSame⟩

/-- Of an account of which nothing is held, nothing is held under some of the hosts. -/
theorem Without.mono (h : s.Without home aliases) (hhome : sameText home' home = true)
    (hhosts : ∀ host ∈ aliases', listed host aliases = true) : s.Without home' aliases' := by
  have hnot {recordHome recordHost : String}
      (hrecord : belongs home aliases recordHome recordHost = false) :
      belongs home' aliases' recordHome recordHost = false := by
    rw [← Bool.not_eq_true] at hrecord ⊢
    exact mt (belongs_of_subset hhome hhosts) hrecord
  exact ⟨fun r hr => hnot (h.accessTokens r hr), fun r hr => hnot (h.refreshTokens r hr),
    fun r hr => hnot (h.idTokens r hr), fun r hr => hnot (h.accounts r hr)⟩

/-- A store that holds nothing of an account stays when the account is removed. -/
theorem Without.withoutAccount_eq (h : s.Without home aliases) :
    s.withoutAccount home aliases = s := by
  have hstays {α : Type} {recordHome recordHost : α → String} {bucket : Bucket α}
      (hnone : ∀ r ∈ bucket.values, belongs home aliases (recordHome r) (recordHost r) = false) :
      (bucket.filter fun _ r => !belongs home aliases (recordHome r) (recordHost r)) = bucket :=
    Dict.filter_eq_self fun r hr => by rw [hnone r hr, Bool.not_false]
  simp only [withoutAccount, hstays h.accessTokens, hstays h.refreshTokens, hstays h.idTokens,
    hstays h.accounts]

/-- What is held of other accounts stays. -/
theorem agreesOn_withoutAccount (s : Store) (aliases aliases' : List String)
    (h : sameText home' home = false) :
    (s.withoutAccount home aliases).AgreesOn home' aliases' s := by
  have hkept {α : Type} (recordHome recordHost : α → String) (l : List α) :
      (l.filter fun r => !belongs home aliases (recordHome r) (recordHost r)).filter
          (fun r => belongs home' aliases' (recordHome r) (recordHost r)) =
        l.filter fun r => belongs home' aliases' (recordHome r) (recordHost r) := by
    rw [List.filter_filter]
    refine List.filter_congr fun r _ => ?_
    cases hother : belongs home' aliases' (recordHome r) (recordHost r) with
    | false => rfl
    | true => simp [belongs_eq_false_of_belongs h hother]
  constructor <;> simp only [withoutAccount, accountRecords, Dict.values_filter, hkept]

/-- **What goes with an account, and what is found afterwards.** Removing an account from a store drops
the access tokens, refresh tokens, ID tokens and accounts that have its home account and one of the
hosts, up to case, and says how many these are. Every other record stays under its key, and so do all
records about applications and the unrecognized sections. From then on no search on behalf of this home
account finds anything under some of the hosts, every search on behalf of another one finds what it
found before, and there is nothing left to remove. -/
theorem removeAccount_sweeps (s : Store) (home : String) (aliases : List String) :
    let kept := (s.removeAccount home aliases).2
    (∀ kind key e, kept.entryAt? kind key = some e ↔
        s.entryAt? kind key = some e ∧ ¬e.IsOf home aliases) ∧
      kept.appMetadata = s.appMetadata ∧ kept.other = s.other ∧
      (s.removeAccount home aliases).1 = (s.entries.filter fun e => e.IsOf home aliases).length ∧
      (∀ search : Search, sameText search.home home = true →
        (∀ host ∈ search.aliases, listed host aliases = true) → search.find? kept = none) ∧
      (∀ search : Search, sameText search.home home = false →
        search.find? kept = search.find? s) ∧
      kept.removeAccount home aliases = (0, kept) := by
  intro kept
  have hwithout : kept.Without home aliases := s.without_withoutAccount home aliases
  refine ⟨fun kind key e => entryAt?_withoutAccount_iff, rfl, rfl, ?_, ?_, ?_, ?_⟩
  · rw [removeAccount_fst, List.countP_eq_length_filter]
  · intro search hhome hhosts
    exact Search.find?_eq_none (hwithout.mono hhome hhosts)
  · intro search hhome
    exact Search.find?_congr (s.agreesOn_withoutAccount aliases search.aliases hhome)
  · rw [removeAccount, hwithout.withoutAccount_eq, Nat.sub_self]

namespace Sample

/-- An access token of a user, cached under a host. -/
def accessTokenOf (home host secret : String) : AccessTokenRecord :=
  ⟨home, host, .accessToken, "client", secret, "utid", .ofText "read", ⟨500⟩, ⟨20000⟩, none, none,
    .empty⟩

/-- A store of two users. One of them signed in under both hosts of an instance and under a third
host. -/
def twoUsers : Store :=
  { Store.empty with
    accessTokens := (((Dict.empty.insert "first" (accessTokenOf "uid.utid" "a.example" "one")).insert
      "second" (accessTokenOf "uid.utid" "B.example" "two")).insert
      "third" (accessTokenOf "uid.utid" "c.example" "three")).insert
      "fourth" (accessTokenOf "other.utid" "a.example" "four")
    refreshTokens := Dict.empty.insert "refresh"
      ⟨"Uid.utid", "a.example", .refreshToken, "client", "refresh", none, .empty⟩
    idTokens := Dict.empty.insert "id"
      ⟨"uid.utid", "A.example", .idToken, "client", "id", "utid", .empty⟩ }

/-- The access token of a user under the hosts of the instance that expires last. -/
def latestOf (home : String) : Search :=
  .latestAccessToken
    ⟨some home, "utid", "client", .ofText "read", ["a.example", "b.example"], ⟨1000⟩, ⟨300⟩⟩

end Sample

/-- Of the four access tokens two go with the user, and so do the refresh token and the ID token. The
other user is served as before. -/
theorem removeAccount_sweeps_twoUsers :
    let removed := Sample.twoUsers.removeAccount "UID.UTID" ["a.example", "b.example"]
    removed.1 = 4 ∧
      removed.2.entryAt? .accessToken "third" =
        some (.accessToken (Sample.accessTokenOf "uid.utid" "c.example" "three")) ∧
      (Search.refreshToken "uid.utid" "client" ["A.example"]).find? removed.2 = none ∧
      (Sample.latestOf "other.utid").find? removed.2 =
        some (.accessToken (Sample.accessTokenOf "other.utid" "a.example" "four")) := by
  intro removed
  obtain ⟨hkept, _, _, hcount, hnone, hother, _⟩ :=
    removeAccount_sweeps Sample.twoUsers "UID.UTID" ["a.example", "b.example"]
  refine ⟨hcount.trans (by decide +kernel), (hkept _ _ _).2 ?_, hnone _ ?_ ?_, ?_⟩
  · exact ⟨rfl, by decide +kernel⟩
  · decide +kernel
  · decide +kernel
  · rw [hother (Sample.latestOf "other.utid") (by decide +kernel)]
    rfl

end Store

end SilentAuth
