import SilentAuth.Cache.Key

/-!
# What a key tells

The parts of a key can be read off it, up to the case of the letters A to Z: a part is escaped so
that different parts stay different, and no escaped part holds the separator. So two records derive
one key exactly if they have the same identity.

* `CacheKey.escape_eq_iff`: which parts are escaped in the same way.
* `CacheKey.join_eq_iff`: two keys are equal exactly if their parts are.
* `CacheKey.accessToken_eq_iff` and its siblings: the identities that keys stand for.
* `CacheKey.kind_eq_of_join_eq`: the kind of a token can be read off its key.
* `CacheKey.keys_identify`: what keys of all kinds identify.
-/

namespace SilentAuth

/-- Only the character itself has a lower case that comes before the letters. -/
theorem toLower_eq_iff_of_lt {c d : Char} (hd : d.toNat < 65) : c.toLower = d ↔ c = d := by
  unfold Char.toLower
  split
  · -- the lower case of a letter is a letter
    rename_i hupper
    obtain ⟨hfirst, hlast⟩ := hupper
    have hA : ('A'.val).toNat = 65 := rfl
    have hZ : ('Z'.val).toNat = 90 := rfl
    have hshift : ('a'.val - 'A'.val).toNat = 32 := rfl
    rw [ge_iff_le, UInt32.le_iff_toNat_le, hA] at hfirst
    rw [UInt32.le_iff_toNat_le, hZ] at hlast
    constructor
    · rintro rfl
      have hsum : (c.val + ('a'.val - 'A'.val)).toNat < 65 := hd
      rw [UInt32.toNat_add] at hsum
      omega
    · rintro rfl
      exact absurd hd (Nat.not_lt.2 hfirst)
  · exact Iff.rfl

namespace CacheKey

/-! ### Escaped parts -/

/-- A character is escaped if it is the escape character or the separator, and else it stands for
itself in lower case. -/
theorem escapeChar_cases (c : Char) :
    (c = '%' ∧ escapeChar c = ['%', '2', '5']) ∨ (c = '-' ∧ escapeChar c = ['%', '2', 'd']) ∨
      (c.toLower ≠ '%' ∧ c.toLower ≠ '-' ∧ escapeChar c = [c.toLower]) := by
  by_cases hpercent : c = '%'
  · exact .inl ⟨hpercent, if_pos hpercent⟩
  · by_cases hdash : c = '-'
    · exact .inr (.inl ⟨hdash, hdash ▸ rfl⟩)
    · refine .inr (.inr ⟨mt (toLower_eq_iff_of_lt (by decide)).1 hpercent,
        mt (toLower_eq_iff_of_lt (by decide)).1 hdash, ?_⟩)
      rw [escapeChar, if_neg hpercent, if_neg hdash]

/-- An escaped character tells which one it is, and where the next one begins. -/
theorem escapeChar_append_inj {c d : Char} {cs ds : List Char}
    (h : escapeChar c ++ cs = escapeChar d ++ ds) : c.toLower = d.toLower ∧ cs = ds := by
  rcases escapeChar_cases c with ⟨rfl, hc⟩ | ⟨rfl, hc⟩ | ⟨hc, -, hc'⟩ <;>
    rcases escapeChar_cases d with ⟨rfl, hd⟩ | ⟨rfl, hd⟩ | ⟨hd, -, hd'⟩ <;> grind

/-- Characters are escaped without regard to their case. -/
theorem escapeChar_toLower (c : Char) : escapeChar c.toLower = escapeChar c := by
  have hpercent : c.toLower = '%' ↔ c = '%' := toLower_eq_iff_of_lt (by decide)
  have hdash : c.toLower = '-' ↔ c = '-' := toLower_eq_iff_of_lt (by decide)
  simp only [escapeChar, hpercent, hdash, toLower_toLower]

/-- Texts are escaped in the same way exactly if they have the same characters up to case. -/
theorem flatMap_escapeChar_eq_iff {cs ds : List Char} :
    cs.flatMap escapeChar = ds.flatMap escapeChar ↔
      cs.map Char.toLower = ds.map Char.toLower := by
  have hne : ∀ c : Char, escapeChar c ≠ [] := by
    intro c
    rcases escapeChar_cases c with ⟨_, hc⟩ | ⟨_, hc⟩ | ⟨_, _, hc⟩ <;> simp [hc]
  induction cs generalizing ds with
  | nil => cases ds <;> simp [hne]
  | cons c cs ih =>
    cases ds with
    | nil => simp [hne]
    | cons d ds =>
      rw [List.flatMap_cons, List.flatMap_cons, List.map_cons, List.map_cons, List.cons.injEq]
      constructor
      · intro h
        obtain ⟨hcase, hrest⟩ := escapeChar_append_inj h
        exact ⟨hcase, ih.1 hrest⟩
      · rintro ⟨hcase, hrest⟩
        rw [← escapeChar_toLower c, hcase, escapeChar_toLower, ih.2 hrest]

/-- Two parts are escaped in the same way exactly if they are the same up to case. -/
theorem escape_eq_iff {a b : String} : escape a = escape b ↔ foldCase a = foldCase b := by
  rw [← String.toList_inj, ← String.toList_inj, toList_foldCase, toList_foldCase, escape, escape,
    String.toList_ofList, String.toList_ofList, flatMap_escapeChar_eq_iff]

/-- No escaped part holds the separator. -/
theorem separator_notMem_escape (part : String) : '-' ∉ (escape part).toList := by
  rw [escape, String.toList_ofList, List.mem_flatMap]
  rintro ⟨c, _, hmem⟩
  rcases escapeChar_cases c with ⟨-, hc⟩ | ⟨-, hc⟩ | ⟨-, hne, hc⟩ <;> rw [hc] at hmem
  · exact absurd hmem (by decide)
  · exact absurd hmem (by decide)
  · exact hne (List.mem_singleton.1 hmem).symm

/-! ### Keys -/

/-- The parts of a key are found between its separators. -/
theorem splitOn_join {parts : List String} (h : parts ≠ []) :
    (join parts).toList.splitOn '-' = parts.map fun part => (escape part).toList := by
  have hseparator : "-".toList = ['-'] := rfl
  rw [join, String.toList_intercalate, hseparator, List.map_map, List.splitOn_intercalate]
  · rfl
  · intro part hpart
    obtain ⟨part, _, rfl⟩ := List.mem_map.1 hpart
    exact separator_notMem_escape part
  · simpa using h

/-- Two keys are equal exactly if their parts are escaped in the same way. -/
theorem join_eq_iff {parts parts' : List String} (h : parts ≠ []) (h' : parts' ≠ []) :
    join parts = join parts' ↔ parts.map escape = parts'.map escape := by
  constructor
  · intro hjoin
    have hparts : (parts.map escape).map String.toList = (parts'.map escape).map String.toList := by
      rw [List.map_map, List.map_map]
      exact (splitOn_join h).symm.trans ((congrArg _ (congrArg _ hjoin)).trans (splitOn_join h'))
    exact (List.map_inj_right fun _ _ => String.toList_inj.1).1 hparts
  · intro hparts
    rw [join, join, hparts]

/-- Access tokens of one user, host, client and tenant for the same scopes have the same key. -/
theorem accessToken_eq_iff
    {home host client realm target home' host' client' realm' target' : String} :
    accessToken home host client realm target = accessToken home' host' client' realm' target' ↔
      foldCase home = foldCase home' ∧ foldCase host = foldCase host' ∧
        foldCase client = foldCase client' ∧ foldCase realm = foldCase realm' ∧
        foldCase target = foldCase target' := by
  simp [accessToken, join_eq_iff, escape_eq_iff]

/-- Refresh tokens of one user and host that have the same owner have the same key. -/
theorem refreshToken_eq_iff {home host client home' host' client' : String}
    {family family' : Option String} :
    refreshToken home host client family = refreshToken home' host' client' family' ↔
      foldCase home = foldCase home' ∧ foldCase host = foldCase host' ∧
        foldCase (refreshTokenOwner client family) =
          foldCase (refreshTokenOwner client' family') := by
  simp [refreshToken, join_eq_iff, escape_eq_iff]

/-- ID tokens of one user, host, client and tenant have the same key. -/
theorem idToken_eq_iff {home host client realm home' host' client' realm' : String} :
    idToken home host client realm = idToken home' host' client' realm' ↔
      foldCase home = foldCase home' ∧ foldCase host = foldCase host' ∧
        foldCase client = foldCase client' ∧ foldCase realm = foldCase realm' := by
  simp [idToken, join_eq_iff, escape_eq_iff]

/-- Records of one account, host and tenant have the same key. -/
theorem account_eq_iff {home host realm home' host' realm' : String} :
    account home host realm = account home' host' realm' ↔
      foldCase home = foldCase home' ∧ foldCase host = foldCase host' ∧
        foldCase realm = foldCase realm' := by
  simp [account, join_eq_iff, escape_eq_iff]

/-- Records of one application at one host have the same key. -/
theorem appMetadata_eq_iff {host client host' client' : String} :
    appMetadata host client = appMetadata host' client' ↔
      foldCase host = foldCase host' ∧ foldCase client = foldCase client' := by
  simp [appMetadata, join_eq_iff, escape_eq_iff]

/-- The names of the kinds of tokens differ in more than their case. -/
theorem foldCase_name_inj {kind kind' : CredentialType}
    (h : foldCase kind.name = foldCase kind'.name) : kind = kind' := by
  cases kind <;> cases kind' <;> first | rfl | exact absurd h (by decide)

/-- The kind of a token is the third part of its key, whatever the other parts hold. -/
theorem kind_eq_of_join_eq {home host home' host' : String} {kind kind' : CredentialType}
    {rest rest' : List String}
    (h : join (home :: host :: kind.name :: rest) = join (home' :: host' :: kind'.name :: rest')) :
    kind = kind' := by
  have hparts := (join_eq_iff (List.cons_ne_nil _ _) (List.cons_ne_nil _ _)).1 h
  simp only [List.map_cons, List.cons.injEq] at hparts
  exact foldCase_name_inj (escape_eq_iff.1 hparts.2.2.1)

/-- **What keys identify.** Two keys of one kind are equal exactly if the parts of the identity are the
same up to the case of the letters A to Z, for whatever texts; of a refresh token these are the user,
the host and the owner, which is its family or else its client. Keys of tokens of different kinds are
never equal. -/
theorem keys_identify (home host client realm target home' host' client' realm' target' : String)
    (family family' : Option String) :
    (accessToken home host client realm target = accessToken home' host' client' realm' target' ↔
      [home, host, client, realm, target].map foldCase =
        [home', host', client', realm', target'].map foldCase) ∧
    (refreshToken home host client family = refreshToken home' host' client' family' ↔
      [home, host, refreshTokenOwner client family].map foldCase =
        [home', host', refreshTokenOwner client' family'].map foldCase) ∧
    (idToken home host client realm = idToken home' host' client' realm' ↔
      [home, host, client, realm].map foldCase = [home', host', client', realm'].map foldCase) ∧
    (account home host realm = account home' host' realm' ↔
      [home, host, realm].map foldCase = [home', host', realm'].map foldCase) ∧
    (appMetadata host client = appMetadata host' client' ↔
      [host, client].map foldCase = [host', client'].map foldCase) ∧
    accessToken home host client realm target ≠ refreshToken home' host' client' family' ∧
    accessToken home host client realm target ≠ idToken home' host' client' realm' ∧
    refreshToken home host client family ≠ idToken home' host' client' realm' := by
  have hkind {kind kind' : CredentialType} {rest rest' : List String} (hne : kind ≠ kind') :
      join (home :: host :: kind.name :: rest) ≠ join (home' :: host' :: kind'.name :: rest') :=
    fun h => hne (kind_eq_of_join_eq h)
  refine ⟨?_, ?_, ?_, ?_, ?_, hkind (by decide), hkind (by decide), hkind (by decide)⟩
  · simp [accessToken_eq_iff]
  · simp [refreshToken_eq_iff]
  · simp [idToken_eq_iff]
  · simp [account_eq_iff]
  · simp [appMetadata_eq_iff]

/-- A separator inside a part does not move the end of the part. -/
example : account "a-b" "c" "d" = "a%2db-c-d" ∧ account "a" "b-c" "d" = "a-b%2dc-d" := by
  decide +kernel

end CacheKey

end SilentAuth
