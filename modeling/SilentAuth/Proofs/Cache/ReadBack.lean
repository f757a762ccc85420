import SilentAuth.Proofs.Cache.Overlap

/-!
# Reading back what was saved

Whatever a store held before, under whatever keys and in whatever case: once a response was saved, a
query that reads back what was issued has one match, the new access token. So it does not matter
which of several matches a lookup would prefer, and the new token is found as long as it is valid.

* `Store.filter_isMatch_saveResponse`: the matches after a response was saved.
* `Store.saveResponse_read_back`: what both lookups find.
-/

namespace SilentAuth

namespace Store

/-- The new access token is the only match of a query that reads back what was issued: whatever else
the query could find was replaced. -/
theorem filter_isMatch_saveResponse (s : Store) {i : Issued} {q : AccessTokenQuery}
    (h : i.ReadBy q) :
    (s.saveResponse i).accessTokens.values.filter q.isMatch = [i.accessTokenRecord] := by
  apply Dict.filter_values_eq_singleton find?_accessTokens_saveResponse_self h.isMatch
  intro key r hr hmatch
  by_contra hkey
  obtain ⟨_, hkept⟩ := find?_accessTokens_of_saveResponse hr hkey
  rw [h.replaces hmatch] at hkept
  cases hkept

/-- **What was saved is read back.** Once a response was saved, the new access token is the only match
of every query that reads back what was issued. It is found as the match that lives longest, and it
is found as a valid one exactly if it outlives the buffer, counted without bounds; otherwise nothing
is. -/
theorem saveResponse_read_back (s : Store) {i : Issued} {q : AccessTokenQuery} (h : i.ReadBy q) :
    (s.saveResponse i).accessTokens.values.filter q.isMatch = [i.accessTokenRecord] ∧
      (s.saveResponse i).findLatestAccessToken q = some i.accessTokenRecord ∧
      (s.saveResponse i).findAccessToken q =
        if q.now.seconds.toNat + q.buffer.seconds.toNat < i.response.expiresOn.seconds.toNat then
          some i.accessTokenRecord
        else none := by
  have hmatches := filter_isMatch_saveResponse s h
  refine ⟨hmatches, ?_, ?_⟩
  · rw [findLatestAccessToken, hmatches]
    rfl
  · have hvalid : i.accessTokenRecord.validAt (q.now.after q.buffer) = true ↔
        q.now.seconds.toNat + q.buffer.seconds.toNat < i.response.expiresOn.seconds.toNat :=
      UnixTime.after_before_iff
    rw [findAccessToken_eq, hmatches, List.find?_singleton]
    simp only [hvalid]

namespace Sample

/-- A store in which another program has put a token of the user that lives longer than the new one
will, under a key of its own, and one for other scopes. -/
def crowded : Store :=
  { Store.empty with
    accessTokens := (Dict.empty.insert "longer"
      ⟨"UID.utid", "A.example", .accessToken, "CLIENT", "older", "UTID", .ofText "mail READ", ⟨500⟩,
        ⟨20000⟩, none, none, .empty⟩).insert "other"
      ⟨"uid.utid", "a.example", .accessToken, "client", "another", "utid", .ofText "files", ⟨500⟩,
        ⟨20000⟩, none, none, .empty⟩ }

end Sample

/-- A token that lived longer, under another host of the instance, gave way to the new one. -/
theorem saveResponse_read_back_crowded :
    (Sample.crowded.findLatestAccessToken Sample.reading).map (·.secret) = some "older" ∧
      (Sample.granting "b.example" "read write").ReadBy Sample.reading ∧
      (Sample.crowded.saveResponse
        (Sample.granting "b.example" "read write")).findAccessToken Sample.reading =
          some (Sample.granting "b.example" "read write").accessTokenRecord := by
  have hread : (Sample.granting "b.example" "read write").ReadBy Sample.reading := {
    home := by decide +kernel
    client := by decide +kernel
    realm := by decide +kernel
    environment := by decide +kernel
    within := by decide +kernel
    asked := ⟨"read", by decide +kernel, by decide +kernel⟩
    granted := by decide +kernel }
  refine ⟨by decide +kernel, hread, ?_⟩
  rw [(saveResponse_read_back Sample.crowded hread).2.2]
  exact if_pos (by decide +kernel)

end Store

end SilentAuth
