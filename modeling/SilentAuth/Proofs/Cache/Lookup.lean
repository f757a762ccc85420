import Mathlib.Data.List.Induction
import SilentAuth.Cache.Lookup

/-!
# What lookups find

* `AccessTokenQuery.isMatch_iff`: the conditions of a query, one by one.
* `longestLived_eq_some_iff`: what the longest-lived record of a list is; `longestLived_eq_some`: no
  other one expires later.
* `Store.findLatestAccessToken_eq_some_iff`: the longest-lived match of a query is the one to which all
  others yield.
* `Store.findAccessToken_eq`: the first match that stays valid.
* `Store.findAccount_isSome_iff`: when the record of an account is found.
-/

namespace SilentAuth

/-! ### Matches -/

/-- A record is a match if it has the home account, a host of the alias set, the realm and the
client of the query, up to case, and grants all requested scopes but the reserved ones. -/
theorem AccessTokenQuery.isMatch_iff {q : AccessTokenQuery} {r : AccessTokenRecord} :
    q.isMatch r = true ↔
      sameText r.homeAccountId (q.homeAccountId.getD "") = true ∧
        listed r.environment q.aliases = true ∧ sameText r.realm q.realm = true ∧
        sameText r.clientId q.clientId = true ∧
        ∀ name ∈ q.scopes.names, Scopes.isReserved name = false →
          listed name r.target.names = true := by
  unfold isMatch
  simp only [Bool.and_eq_true, Scopes.containsAll_iff, Scopes.mem_names_withoutReserved, and_assoc,
    and_imp]

/-! ### The longest-lived record -/

/-- The longest-lived record of a list that goes on. -/
theorem longestLived_append_singleton (records : List AccessTokenRecord) (r : AccessTokenRecord) :
    longestLived (records ++ [r]) =
      match longestLived records with
      | none => some r
      | some b => if r.expiresOn.before b.expiresOn then some b else some r := by
  unfold longestLived
  rw [List.foldl_append]
  simp only [List.foldl_cons, List.foldl_nil]
  cases List.foldl _ none records <;> rfl

/-- There is a longest-lived record unless there is none at all. -/
theorem longestLived_eq_none_iff {records : List AccessTokenRecord} :
    longestLived records = none ↔ records = [] := by
  induction records using List.reverseRecOn with
  | nil => simp [longestLived]
  | append_singleton records r ih =>
    rw [longestLived_append_singleton]
    cases longestLived records with
    | none => simp
    | some b => by_cases h : r.expiresOn.before b.expiresOn = true <;> simp [h]

/-- The longest-lived record of a list: none before it expires later, and all behind it expire
earlier. -/
def LastsLongest (records : List AccessTokenRecord) (r : AccessTokenRecord) : Prop :=
  ∃ front behind, records = front ++ r :: behind ∧
    (∀ other ∈ front, r.expiresOn.before other.expiresOn = false) ∧
    ∀ other ∈ behind, other.expiresOn.before r.expiresOn = true

/-- No record of a list expires later than the longest-lived one. -/
theorem LastsLongest.bound {records : List AccessTokenRecord} {r : AccessTokenRecord}
    (h : LastsLongest records r) {other : AccessTokenRecord} (hother : other ∈ records) :
    r.expiresOn.before other.expiresOn = false := by
  obtain ⟨front, behind, rfl, hfront, hbehind⟩ := h
  rcases List.mem_append.1 hother with hother | hother
  · exact hfront other hother
  · rcases List.mem_cons.1 hother with rfl | hother
    · exact UnixTime.before_eq_false_iff.2 (Nat.le_refl _)
    · exact UnixTime.before_eq_false_iff_before_or_eq.2 (.inl (hbehind other hother))

/-- A record that all others of a list are listed before, and none of them expires later, is the
longest-lived one. -/
theorem lastsLongest_append_singleton {records : List AccessTokenRecord} {r : AccessTokenRecord}
    (h : ∀ other ∈ records, r.expiresOn.before other.expiresOn = false) :
    LastsLongest (records ++ [r]) r :=
  ⟨records, [], rfl, h, fun _ hother => absurd hother List.not_mem_nil⟩

/-- The longest-lived record stays so when a record that expires earlier is listed behind it. -/
theorem LastsLongest.append_singleton {records : List AccessTokenRecord} {r last : AccessTokenRecord}
    (h : LastsLongest records r) (hlast : last.expiresOn.before r.expiresOn = true) :
    LastsLongest (records ++ [last]) r := by
  obtain ⟨front, behind, rfl, hfront, hbehind⟩ := h
  refine ⟨front, behind ++ [last], by simp, hfront, ?_⟩
  intro other hother
  rcases List.mem_append.1 hother with hother | hother
  · exact hbehind other hother
  · exact List.mem_singleton.1 hother ▸ hlast

/-- The record that is computed is the longest-lived one. -/
theorem lastsLongest_of_eq_some {records : List AccessTokenRecord} {r : AccessTokenRecord}
    (h : longestLived records = some r) : LastsLongest records r := by
  induction records using List.reverseRecOn generalizing r with
  | nil => cases h
  | append_singleton records last ih =>
    rw [longestLived_append_singleton] at h
    cases hb : longestLived records with
    | none =>
      have hnil : records = [] := longestLived_eq_none_iff.1 hb
      simp only [hb, Option.some.injEq] at h
      subst hnil h
      exact lastsLongest_append_singleton fun _ hother => absurd hother List.not_mem_nil
    | some b =>
      simp only [hb] at h
      split at h
      · rename_i hlast
        cases h
        exact (ih hb).append_singleton hlast
      · rename_i hlast
        cases h
        rw [Bool.not_eq_true, UnixTime.before_eq_false_iff] at hlast
        apply lastsLongest_append_singleton
        intro other hother
        have hle := UnixTime.before_eq_false_iff.1 ((ih hb).bound hother)
        exact UnixTime.before_eq_false_iff.2 (Nat.le_trans hle hlast)

/-- The longest-lived record is the one that is computed. -/
theorem LastsLongest.eq_some {records : List AccessTokenRecord} {r : AccessTokenRecord}
    (h : LastsLongest records r) : longestLived records = some r := by
  obtain ⟨front, behind, rfl, hfront, hbehind⟩ := h
  induction behind using List.reverseRecOn with
  | nil =>
    rw [longestLived_append_singleton]
    cases hb : longestLived front with
    | none => rfl
    | some b =>
      obtain ⟨_, _, hparts, _⟩ := lastsLongest_of_eq_some hb
      have hmem : b ∈ front := by
        rw [hparts]
        simp
      simp [hfront b hmem]
  | append_singleton behind last ih =>
    have hrest := ih fun other hother => hbehind other (List.mem_append_left _ hother)
    rw [← List.cons_append, ← List.append_assoc, longestLived_append_singleton, hrest]
    simp [hbehind last (by simp)]

/-- What is computed is the longest-lived record. -/
theorem longestLived_eq_some_iff {records : List AccessTokenRecord} {r : AccessTokenRecord} :
    longestLived records = some r ↔ LastsLongest records r :=
  ⟨lastsLongest_of_eq_some, LastsLongest.eq_some⟩

/-- The longest-lived record is one of the list, and none of the list expires later. -/
theorem longestLived_eq_some {records : List AccessTokenRecord} {r : AccessTokenRecord}
    (h : longestLived records = some r) :
    r ∈ records ∧ ∀ other ∈ records, r.expiresOn.before other.expiresOn = false := by
  have hlongest := longestLived_eq_some_iff.1 h
  refine ⟨?_, fun other hother => hlongest.bound hother⟩
  obtain ⟨_, _, rfl, _⟩ := hlongest
  simp

/-- Of two entries that a query matches, one yields to the other if its record expires earlier, or at
the same time under a smaller key. -/
def YieldsTo (entry winner : String × AccessTokenRecord) : Prop :=
  entry.2.expiresOn.before winner.2.expiresOn = true ∨
    entry.2.expiresOn = winner.2.expiresOn ∧ entry.1 < winner.1

/-- In the order of keys, the longest-lived record is the one to which all others yield. -/
theorem lastsLongest_map_snd_iff {entries : List (String × AccessTokenRecord)}
    (h : Assoc.Ascending entries) {r : AccessTokenRecord} :
    LastsLongest (entries.map Prod.snd) r ↔
      ∃ key, (key, r) ∈ entries ∧ ∀ e ∈ entries, e.1 ≠ key → YieldsTo e (key, r) := by
  constructor
  · rintro ⟨front, behind, hparts, hfront, hbehind⟩
    obtain ⟨before, rest, rfl, rfl, hrest⟩ := List.map_eq_append_iff.1 hparts
    obtain ⟨⟨key, r⟩, after, rfl, rfl, rfl⟩ := List.map_eq_cons_iff.1 hrest
    refine ⟨key, by simp, ?_⟩
    intro e he hne
    rcases List.mem_append.1 he with he | he
    · have hnotLater := hfront e.2 (List.mem_map_of_mem he)
      rcases UnixTime.before_eq_false_iff_before_or_eq.1 hnotLater with hbefore | heq
      · exact .inl hbefore
      · exact .inr ⟨heq, h.lt_of_append he List.mem_cons_self⟩
    · rcases List.mem_cons.1 he with rfl | he
      · exact absurd rfl hne
      · exact .inl (hbehind e.2 (List.mem_map_of_mem he))
  · rintro ⟨key, hmem, hyields⟩
    obtain ⟨before, after, rfl⟩ := List.append_of_mem hmem
    refine ⟨before.map Prod.snd, after.map Prod.snd, by simp, ?_, ?_⟩
    · intro other hother
      obtain ⟨e, he, rfl⟩ := List.mem_map.1 hother
      have hlt : e.1 < key := h.lt_of_append he (List.mem_cons_self (a := (key, r)))
      have hyield := hyields e (List.mem_append_left _ he) (String.ne_of_lt hlt)
      exact UnixTime.before_eq_false_iff_before_or_eq.2 (hyield.imp_right And.left)
    · intro other hother
      obtain ⟨e, he, rfl⟩ := List.mem_map.1 hother
      have hlt : key < e.1 := (List.pairwise_cons.1 (List.pairwise_append.1 h).2.1).1 e he
      have hmem : e ∈ before ++ (key, r) :: after :=
        List.mem_append_right _ (List.mem_cons_of_mem _ he)
      rcases hyields e hmem (String.ne_of_lt hlt).symm with hearlier | ⟨_, hgt⟩
      · exact hearlier
      · exact absurd (String.lt_trans hlt hgt) (String.lt_irrefl key)

namespace Store

/-- The longest-lived match of a query is cached, is a match, and no other match expires later. -/
theorem findLatestAccessToken_eq_some {s : Store} {q : AccessTokenQuery} {r : AccessTokenRecord}
    (h : s.findLatestAccessToken q = some r) :
    r ∈ s.accessTokens.values ∧ q.isMatch r = true ∧
      ∀ other ∈ s.accessTokens.values, q.isMatch other = true →
        r.expiresOn.before other.expiresOn = false := by
  obtain ⟨hmem, hmax⟩ := longestLived_eq_some h
  obtain ⟨hcached, hmatch⟩ := List.mem_filter.1 hmem
  exact ⟨hcached, hmatch, fun other hother hm => hmax other (List.mem_filter.2 ⟨hother, hm⟩)⟩

/-- The longest-lived match depends on the matches alone. -/
theorem findLatestAccessToken_congr {s : Store} {q q' : AccessTokenQuery}
    (h : q.isMatch = q'.isMatch) : s.findLatestAccessToken q = s.findLatestAccessToken q' := by
  rw [findLatestAccessToken, findLatestAccessToken, h]

/-- The first match that stays valid for the buffer: like the longest-lived one, it depends on the
matches alone. -/
theorem findAccessToken_eq (s : Store) (q : AccessTokenQuery) :
    s.findAccessToken q = (s.accessTokens.values.filter q.isMatch).find? fun r =>
      r.validAt (q.now.after q.buffer) := by
  rw [List.find?_filter]
  simp only [findAccessToken, Bool.decide_and, Bool.decide_eq_true]

/-- The longest-lived match of a query is the one to which all other matches yield. -/
theorem findLatestAccessToken_eq_some_iff {s : Store} {q : AccessTokenQuery}
    {r : AccessTokenRecord} : s.findLatestAccessToken q = some r ↔
      ∃ key, s.accessTokens.find? key = some r ∧ q.isMatch r = true ∧
        ∀ key' other, s.accessTokens.find? key' = some other → q.isMatch other = true →
          key' ≠ key → YieldsTo (key', other) (key, r) := by
  have hvalues : s.accessTokens.values.filter q.isMatch =
      (s.accessTokens.entries.filter fun e => q.isMatch e.2).map Prod.snd := List.filter_map
  have hascending : Assoc.Ascending (s.accessTokens.entries.filter fun e => q.isMatch e.2) :=
    Assoc.ascending_filter _ s.accessTokens.ascending
  rw [findLatestAccessToken, longestLived_eq_some_iff, hvalues,
    lastsLongest_map_snd_iff hascending]
  simp only [List.mem_filter, ← Dict.find?_eq_some_iff, Prod.forall, and_imp, and_assoc]

/-- An account is found exactly if one of its records is cached under the hosts. -/
theorem findAccount_isSome_iff {s : Store} {home : String} {realm : Option String}
    {aliases : List String} : (s.findAccount home realm aliases).isSome = true ↔
      ∃ r ∈ s.accounts.values, belongs home aliases r.homeAccountId r.environment = true := by
  have hmem : ∀ r, r ∈ s.accountRecords home aliases ↔
      r ∈ s.accounts.values ∧ belongs home aliases r.homeAccountId r.environment = true :=
    fun _ => List.mem_filter
  unfold findAccount
  rw [Option.isSome_or, Bool.or_eq_true]
  constructor
  · rintro (hsome | hsome) <;> obtain ⟨r, hr⟩ := Option.isSome_iff_exists.1 hsome
    · obtain ⟨_, _, hfound⟩ := Option.bind_eq_some_iff.1 hr
      exact ⟨r, (hmem r).1 (List.mem_of_find?_eq_some hfound)⟩
    · exact ⟨r, (hmem r).1 (List.mem_of_mem_head? hr)⟩
  · rintro ⟨r, hr⟩
    exact .inr (List.isSome_head?.2 (List.ne_nil_of_mem ((hmem r).2 hr)))

end Store

end SilentAuth
