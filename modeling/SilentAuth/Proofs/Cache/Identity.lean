import SilentAuth.Proofs.Cache.Written

/-!
# One record for one identity

Other programs may store a record under a key that it does not derive. Saving a response drops such
a record if it derives the key of a new token, or of the new record of the application, so there is
one record with that identity afterwards. The account of the tokens is looked up under its own key
only, and a record of the same account under another key stays beside it.

* `Store.Sole`: a record stands in a store as the only one with its identity.
* `Store.saveResponse_sole_iff`: which of the records of a response do.
* `Store.account_saved_twice`: an account of which there are two records.
-/

namespace SilentAuth

namespace Store

/-- A store holds a record with these recognized fields under the key it derives, and every record
of its kind that derives this key stands there. -/
structure Sole (s : Store) (w : Entry) : Prop where
  held : ∃ e, s.entryAt? w.kind w.key = some e ∧ e.bare = w.bare
  only : ∀ key e, s.entryAt? w.kind key = some e → e.key = w.key → key = w.key

/-- **One record for one identity.** Every record that is written for a response is the only one
with its identity afterwards, except the account: it is so exactly if no record that derives its key
stood under another key before. -/
theorem saveResponse_sole_iff (s : Store) (i : Issued) {kind : RecordKind} {w : Entry}
    (hw : i.written? kind = some w) :
    (s.saveResponse i).Sole w ↔
      (kind = .account →
        ∀ key e, s.entryAt? .account key = some e → e.key = w.key → key = w.key) := by
  obtain rfl := Issued.kind_of_written? hw
  have helsewhere {key : String} (hkey : key ≠ w.key) :
      ∀ w', i.written? w.kind = some w' → key ≠ w'.key := by
    intro w' hw'
    rw [hw] at hw'
    cases hw'
    exact hkey
  constructor
  · intro hsole haccount key e hstored hsame
    by_contra hkey
    have hstays : ¬i.Drops e := by
      obtain ⟨r, _, rfl⟩ := Option.map_eq_some_iff.1 hstored
      exact Issued.not_drops_account
    rw [← haccount] at hstored
    exact hkey (hsole.only key e
      ((entryAt?_saveResponse_of_ne (helsewhere hkey)).2 ⟨hstored, hstays⟩) hsame)
  · intro haccounts
    refine ⟨entryAt?_saveResponse_self hw, ?_⟩
    intro key e hsaved hsame
    by_contra hkey
    obtain ⟨hstored, hstays⟩ := (entryAt?_saveResponse_of_ne (helsewhere hkey)).1 hsaved
    have hkind : e.kind = w.kind := kind_of_entryAt? hstored
    by_cases haccount : w.kind = .account
    · rw [haccount] at hstored
      exact hkey (haccounts haccount key e hstored hsame)
    · rw [← hkind] at haccount hw
      exact hstays (.sameKey haccount hw hsame)

/-! ### Records under unescaped keys -/

namespace Sample

/-- A response for an account whose id holds a separator. -/
def dashedResponse : Issued := Issued.Sample.response "uid-1.utid" "login.windows.net"

/-- A store into which a program that does not escape keys has put a refresh token and a record of
this account. -/
def unescaped : Store :=
  { Store.empty with
    refreshTokens := Dict.empty.insert "uid-1.utid-login.windows.net-refreshtoken-client--"
      ⟨"uid-1.utid", "login.windows.net", .refreshToken, "client", "old", none, .empty⟩
    accounts := Dict.empty.insert "uid-1.utid-login.windows.net-utid"
      ⟨"uid-1.utid", "login.windows.net", "utid", none, some "user", none, none, none, .empty⟩ }

end Sample

/-- The refresh token is replaced, though it stood under another key. -/
theorem saveResponse_sole_refreshToken :
    Sample.dashedResponse.written? .refreshToken =
        some (.refreshToken (Sample.dashedResponse.refreshTokenRecord "new")) ∧
      (Sample.unescaped.saveResponse Sample.dashedResponse).Sole
        (.refreshToken (Sample.dashedResponse.refreshTokenRecord "new")) := by
  have hw : Sample.dashedResponse.written? .refreshToken =
      some (.refreshToken (Sample.dashedResponse.refreshTokenRecord "new")) := rfl
  refine ⟨hw, ?_⟩
  rw [saveResponse_sole_iff Sample.unescaped Sample.dashedResponse hw]
  exact nofun

/-- The record of the account stays beside the new one, so two records derive the key under which
the account was written. -/
theorem account_saved_twice :
    let saved := Sample.unescaped.saveResponse Sample.dashedResponse
    let account := Sample.dashedResponse.accountRecord
    Sample.dashedResponse.written? .account = some (.account account) ∧
      CacheRecord.key account = "uid%2d1.utid-login.windows.net-utid" ∧
      saved.accounts.keys =
        ["uid%2d1.utid-login.windows.net-utid", "uid-1.utid-login.windows.net-utid"] ∧
      saved.accounts.values.map CacheRecord.key =
        [CacheRecord.key account, CacheRecord.key account] := by
  intro saved account
  have hhome : Sample.dashedResponse.homeAccountId ≠ "" := by decide +kernel
  have hkey : CacheRecord.key account = "uid%2d1.utid-login.windows.net-utid" := by decide +kernel
  refine ⟨Issued.written?_account hhome, hkey, ?_, ?_⟩
  · decide +kernel
  · decide +kernel

end Store

end SilentAuth
