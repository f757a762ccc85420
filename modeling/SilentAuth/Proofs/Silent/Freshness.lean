import SilentAuth.Proofs.Cache.Written
import SilentAuth.Proofs.Http.Grants
import SilentAuth.Proofs.Silent.Offer

/-!
# Tokens that were just issued

A token that was just issued must not be due at once, or each request would redeem a refresh token
again; and its marker must come before its end, or it would mean nothing. If the service names a lifetime
only, both follow from how lifetimes become times.

* `Issued.cacheHit_of_before`: until when the access token of a response is returned from the cache.
* `TokenEndpoint.issued_not_due`: how an access token that was just issued is treated, now and later.
-/

namespace SilentAuth

/-- The access token of a response is returned from the cache as long as its end is farther than the
buffer, and the time to refresh it has not come. -/
theorem Issued.cacheHit_of_before {i : Issued} {t : UnixTime} {buffer : Span}
    (htoken : i.response.accessToken ≠ "")
    (hend : t.seconds.toNat + buffer.seconds.toNat < i.response.expiresOn.seconds.toNat)
    (hmarker : ∀ marker ∈ i.response.refreshOn, t.before marker = true) :
    Decision.of (some i.accessTokenRecord) false t buffer = .cacheHit i.accessTokenRecord := by
  have hdue : i.accessTokenRecord.refreshDueAt t = false := by
    show i.response.refreshOn.elim false (fun due => !t.before due) = false
    cases hrefresh : i.response.refreshOn with
    | none => rfl
    | some marker => simp [hmarker marker hrefresh]
  exact Decision.of_eq_cacheHit_iff.2 ⟨rfl, rfl, ⟨htoken, hend⟩, hdue⟩

namespace TokenEndpoint

/-- **A token that was just issued is not due.** Let an answer at a time bring an access token that is
not empty, whose lifetime it says, as a number or as a text, but not when to refresh it; let the end of
its life be in the range of times, and let it live longer than the buffer. Then the record that is saved
of it, in whatever store and for whatever request, expires at the end of its life. It is returned from
the cache at that time, and at each one that is farther from its end than the buffer and before its
marker. The marker, if there is one, lies between that time and the end, and is neither. -/
theorem issued_not_due {now : UnixTime} {failure : String} {http : HttpResponse}
    {response : TokenResponse} {lifetime buffer : Span}
    (hresponse : outcome now failure (some http) = .ok response)
    (hbody : SaysLifetime http.body lifetime) (htoken : response.accessToken ≠ "")
    (hfits : now.seconds.toNat + lifetime.seconds.toNat < 2 ^ 64)
    (hbuffer : buffer.seconds.toNat < lifetime.seconds.toNat) (s : Store) (context : SaveContext) :
    let i : Issued := ⟨context, response⟩
    let r := i.accessTokenRecord
    (s.saveResponse i).accessTokens.find? (CacheRecord.key r) = some r ∧
      r.secret = response.accessToken ∧
      r.expiresOn.seconds.toNat = now.seconds.toNat + lifetime.seconds.toNat ∧
      Decision.of (some r) false now buffer = .cacheHit r ∧
      (∀ t : UnixTime, t.seconds.toNat + buffer.seconds.toNat < r.expiresOn.seconds.toNat →
        (∀ marker ∈ r.refreshOn, t.before marker = true) →
        Decision.of (some r) false t buffer = .cacheHit r) ∧
      ∀ marker ∈ r.refreshOn, now.before marker = true ∧ marker.before r.expiresOn = true := by
  intro i r
  obtain ⟨_, _, _, grant, hgrant, rfl⟩ := outcome_eq_ok_iff.1 hresponse
  obtain ⟨rfl, hrefresh⟩ := hbody.eq_of_body hgrant
  have hend := Grant.toNat_expiresOn hfits
  have hmarker {marker : UnixTime} (h : marker ∈ (grant.response now).refreshOn) :=
    Grant.marker_between hrefresh hfits h
  refine ⟨Store.find?_accessTokens_saveResponse_self, rfl, hend, ?_, ?_, ?_⟩
  · refine Issued.cacheHit_of_before htoken ?_ fun marker h => (hmarker h).1
    rw [hend]
    exact Nat.add_lt_add_left hbuffer _
  · exact fun t => Issued.cacheHit_of_before htoken
  · exact fun marker h => hmarker h

namespace Sample

/-- An answer that brings a token for a day, and says so in a text. -/
def day : HttpResponse where
  status := 200
  fields := []
  body := ("\x7b\"access_token\":\"at\",\"expires_in\":\" +86400\"\x7d".toList).map
    fun c => c.toNat.toUInt8

/-- What it brings, in the first hour of 1970. -/
def tokens : TokenResponse :=
  ⟨"at", none, none, ⟨87400⟩, none, some ⟨44200⟩, .empty, none, none⟩

/-- For what it was asked. -/
def context : SaveContext := (Issued.Sample.response "uid.utid" "a.example").context

end Sample

/-- A token for a day is returned from the cache when it comes in, and until half of the day is over;
the token that is returned is the one that was saved. -/
theorem issued_not_due_for_day :
    let r := Issued.accessTokenRecord ⟨Sample.context, Sample.tokens⟩
    outcome ⟨1000⟩ "" (some Sample.day) = .ok Sample.tokens ∧
      (Store.empty.saveResponse ⟨Sample.context, Sample.tokens⟩).accessTokens.find?
        (CacheRecord.key r) = some r ∧
      Decision.of (some r) false ⟨1000⟩ ⟨300⟩ = .cacheHit r ∧
      Decision.of (some r) false ⟨44199⟩ ⟨300⟩ = .cacheHit r := by
  intro r
  have hresponse : outcome ⟨1000⟩ "" (some Sample.day) = .ok Sample.tokens := rfl
  have hbody : SaysLifetime Sample.day.body ⟨86400⟩ := by
    constructor
    · exact ⟨.string (some " +86400"), rfl, span?_eq_some_iff.1 rfl⟩
    · intro tree htree
      cases htree
  have hbuffer : (⟨300⟩ : Span).seconds.toNat < (⟨86400⟩ : Span).seconds.toNat := by decide
  obtain ⟨hfound, _, _, hnow, hlater, _⟩ :=
    issued_not_due hresponse hbody (by decide) (by decide) hbuffer Store.empty Sample.context
  refine ⟨hresponse, hfound, hnow, hlater ⟨44199⟩ (by decide) ?_⟩
  rintro marker ⟨⟩
  decide

end TokenEndpoint

end SilentAuth
