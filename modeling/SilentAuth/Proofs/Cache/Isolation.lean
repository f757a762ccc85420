import SilentAuth.Proofs.Cache.Keys
import SilentAuth.Proofs.Cache.Written

/-!
# Saving a response leaves other accounts alone

A shared cache holds the tokens of several accounts and applications. Saving the tokens of one of
them drops records by the keys they derive and by their fields, but a record of another account is
hit by neither: a key tells whose record it is, also where ids hold separators.

* `Issued.Foreign`: the records that a response has nothing to do with.
* `Issued.Foreign.key_ne`: they derive other keys than the records that are written.
* `Store.saveResponse_isolated`: they stay as they are, and so do the unrecognized sections.
-/

namespace SilentAuth

namespace Issued

/-- A record is foreign to a response if it belongs to another account than the tokens, or if it is
about another application or another host. Names are the same that differ in case only. -/
def Foreign (i : Issued) : Entry → Prop
  | .accessToken r => sameText r.homeAccountId i.homeAccountId = false
  | .refreshToken r => sameText r.homeAccountId i.homeAccountId = false
  | .idToken r => sameText r.homeAccountId i.homeAccountId = false
  | .account r => sameText r.homeAccountId i.homeAccountId = false
  | .appMetadata r =>
    sameText r.clientId i.context.clientId = false ∨
      sameText r.environment i.context.environment = false

variable {i : Issued} {e w : Entry}

/-- A foreign record derives another key than the record of its kind that is written. -/
theorem Foreign.key_ne (h : i.Foreign e) (hw : i.written? e.kind = some w) : e.key ≠ w.key := by
  intro hkey
  cases e with
  | accessToken r =>
    cases hw
    exact sameText_eq_false_iff.1 h (CacheKey.accessToken_eq_iff.1 hkey).1
  | refreshToken r =>
    obtain ⟨secret, _, rfl⟩ := Option.map_eq_some_iff.1 hw
    exact sameText_eq_false_iff.1 h (CacheKey.refreshToken_eq_iff.1 hkey).1
  | idToken r =>
    obtain ⟨secret, _, rfl⟩ := Option.map_eq_some_iff.1 hw
    exact sameText_eq_false_iff.1 h (CacheKey.idToken_eq_iff.1 hkey).1
  | account r =>
    obtain ⟨_, hw⟩ := Option.ite_none_left_eq_some.1 hw
    cases hw
    exact sameText_eq_false_iff.1 h (CacheKey.account_eq_iff.1 hkey).1
  | appMetadata r =>
    cases hw
    obtain ⟨hhost, hclient⟩ := CacheKey.appMetadata_eq_iff.1 hkey
    rcases h with h | h
    · exact sameText_eq_false_iff.1 h hclient
    · -- the host is recorded in lower case
      exact sameText_eq_false_iff.1 h
        (hhost.trans (foldCase_foldCase i.context.environment))

/-- A foreign record is not dropped. -/
theorem Foreign.not_drops (h : i.Foreign e) : ¬i.Drops e := by
  rintro (hreplaces | ⟨_, hw, hkey⟩)
  · simp only [replaces, Bool.and_eq_true] at hreplaces
    obtain ⟨⟨⟨⟨hhome, _⟩, _⟩, _⟩, _⟩ := hreplaces
    rw [Foreign, hhome] at h
    cases h
  · exact h.key_ne hw hkey

end Issued

namespace Store

/-- **Isolation of accounts.** Saving a response leaves every record where it stands that is foreign
to the response, and puts no such record anywhere, except where it writes a record of that kind
under the very same key. The unrecognized sections stay as they are. -/
theorem saveResponse_isolated (s : Store) (i : Issued) :
    (∀ kind key e, i.Foreign e → (∀ w, i.written? kind = some w → key ≠ w.key) →
      ((s.saveResponse i).entryAt? kind key = some e ↔ s.entryAt? kind key = some e)) ∧
    (s.saveResponse i).other = s.other := by
  constructor
  · intro kind key e hforeign hkey
    rw [entryAt?_saveResponse_of_ne hkey]
    exact and_iff_left hforeign.not_drops
  · rw [saveResponse_eq]

namespace Sample

/-- A refresh token of the account `a-b` on the host `c`. -/
def dashedAccount : RefreshTokenRecord :=
  ⟨"a-b", "c", .refreshToken, "client", "old", none, .empty⟩

/-- Its key if separators are not escaped, as programs derive it that do not escape them. It is also
the key of a refresh token of the account `a` on the host `b-c` then. -/
def unescapedKey : String := "a-b-c-refreshtoken-client--"

/-- A store into which such a program has put the refresh token. -/
def dashed : Store :=
  { Store.empty with refreshTokens := Dict.empty.insert unescapedKey dashedAccount }

end Sample

/-- The token of one account stays where it stands when a token of another one is saved that would
have the same key without escapes. -/
theorem saveResponse_isolated_dashed :
    (Issued.Sample.response "a" "b-c").Foreign (.refreshToken Sample.dashedAccount) ∧
      (∀ w, (Issued.Sample.response "a" "b-c").written? .refreshToken = some w →
        Sample.unescapedKey ≠ w.key) ∧
      (Sample.dashed.saveResponse (Issued.Sample.response "a" "b-c")).entryAt? .refreshToken
        Sample.unescapedKey = some (.refreshToken Sample.dashedAccount) := by
  have hforeign :
      (Issued.Sample.response "a" "b-c").Foreign (.refreshToken Sample.dashedAccount) := by
    show sameText "a-b" (Issued.Sample.response "a" "b-c").homeAccountId = false
    decide +kernel
  have hkey : ∀ w, (Issued.Sample.response "a" "b-c").written? .refreshToken = some w →
      Sample.unescapedKey ≠ w.key := by
    intro w hw
    cases hw
    decide +kernel
  refine ⟨hforeign, hkey, ?_⟩
  have hisolated := saveResponse_isolated Sample.dashed (Issued.Sample.response "a" "b-c")
  rw [hisolated.1 _ _ _ hforeign hkey]
  exact congrArg (Option.map Entry.refreshToken)
    (Dict.find?_insert_self .empty Sample.unescapedKey Sample.dashedAccount)

end Store

end SilentAuth
