import SilentAuth.Http.TokenEndpoint
import SilentAuth.Proofs.Json.Members
import SilentAuth.Proofs.Text.Numerals

/-!
# Tokens as a service sends them

The fields of a token response say how long the access token lives, and perhaps when it should be
refreshed. Both are numbers of seconds, as numbers or as texts. By the clock of the client they become
times; if these are in the range of times, nothing is lost.

* `ParseTree.SaysSeconds`: how a number of seconds is written.
* `TokenEndpoint.SaysLifetime`: the bodies that name a lifetime, but no time to refresh.
* `TokenEndpoint.outcome_eq_ok_iff`: the answers that bring tokens.
* `TokenEndpoint.Grant.marker_between`: half a life is more than none and less than all of it.
-/

namespace SilentAuth

/-! ### Numbers of seconds -/

/-- A tree says a number of seconds: as a number, or as a text in which it stands. -/
inductive ParseTree.SaysSeconds : ParseTree → Nat → Prop where
  | number (n : UInt64) : SaysSeconds (.number (some (.natural n))) n.toNat
  | text {s : String} {n : Nat} (h : Numeral.StandsIn s n) : SaysSeconds (.string (some s)) n

namespace TokenEndpoint

/-- Spans are read from the trees that say them, and from no others. -/
theorem span?_eq_some_iff {tree : ParseTree} {span : Span} :
    span? tree = some span ↔ tree.SaysSeconds span.seconds.toNat := by
  constructor
  · intro h
    unfold span? at h
    split at h
    · simp only [Option.bind_eq_bind, Option.bind_eq_some_iff, Option.pure_def,
        Option.some.injEq] at h
      obtain ⟨s, rfl, n, hn, rfl⟩ := h
      exact .text (Numeral.read?_trimBlank_eq_some_iff.1 hn)
    · obtain ⟨n, hn, rfl⟩ := Option.map_eq_some_iff.1 h
      unfold ParseTree.natural? at hn
      split at hn
      · cases hn
        exact .number _
      · cases hn
  · obtain ⟨n⟩ := span
    generalize hseconds : n.toNat = seconds
    intro h
    cases h with
    | number m => rw [UInt64.toNat_inj.1 hseconds]; rfl
    | text h =>
      subst hseconds
      simp [span?, Numeral.read?_trimBlank_eq_some_iff.2 h]

/-! ### Bodies -/

/-- A field of the tokens that a body says. -/
def field? (body : List UInt8) (name : String) : Option ParseTree :=
  (readBytes? Grant.shape.fields? body).bind (Assoc.find? name)

/-- A body says how long its access token lives, but not when it should be refreshed. -/
structure SaysLifetime (body : List UInt8) (lifetime : Span) : Prop where
  lifetime : ∃ tree ∈ field? body "expires_in", tree.SaysSeconds lifetime.seconds.toNat
  refresh : ∀ tree ∈ field? body "refresh_in", tree = .null

/-- The spans in the tokens that are read from a body are those of its fields. -/
theorem spans_of_body {body : List UInt8} {grant : Grant}
    (h : readBytes? Grant.ofTree? body = some grant) :
    (field? body "expires_in").bind span? = some grant.lifetime ∧
      (field? body "refresh_in").elim (some none) (ParseTree.option? span?) =
        some grant.refreshIn := by
  obtain ⟨tree, htree, hread⟩ := Option.bind_eq_some_iff.1 h
  simp only [Grant.ofTree?, Option.bind_eq_bind, Option.bind_eq_some_iff, Option.pure_def,
    Option.some.injEq] at hread
  obtain ⟨fields, hfields, accessToken, _, refreshToken, _, idToken, _, lifetime, hlifetime,
    extended, _, refreshIn, hrefresh, scope, _, family, _, client, _, rfl⟩ := hread
  have hbody : readBytes? Grant.shape.fields? body = some fields := by
    simp [readBytes?, htree, hfields]
  rw [field?, field?, hbody]
  exact ⟨Fields.required?_eq_some hlifetime, Fields.defaulted?_eq_some hrefresh⟩

/-- What a body says of the life of its access token is what is read. -/
theorem SaysLifetime.eq_of_body {body : List UInt8} {lifetime : Span} {grant : Grant}
    (hbody : SaysLifetime body lifetime) (h : readBytes? Grant.ofTree? body = some grant) :
    grant.lifetime = lifetime ∧ grant.refreshIn = none := by
  obtain ⟨hlifetime, hrefresh⟩ := spans_of_body h
  constructor
  · obtain ⟨tree, htree, hseconds⟩ := hbody.lifetime
    rw [htree, Option.bind_some, span?_eq_some_iff.2 hseconds, Option.some.injEq] at hlifetime
    exact hlifetime.symm
  · cases hfield : field? body "refresh_in" with
    | none =>
      rw [hfield] at hrefresh
      exact (Option.some.inj hrefresh).symm
    | some tree =>
      rw [hfield, hbody.refresh tree hfield] at hrefresh
      exact (Option.some.inj hrefresh).symm

end TokenEndpoint

/-! ### Answers -/

namespace HttpResponse

/-- A response that tells success is final. -/
theorem final_of_isSuccess {r : HttpResponse} (h : r.isSuccess = true) : 200 ≤ r.status :=
  of_decide_eq_true (Bool.and_eq_true_iff.1 h).1

/-- A final response that is well formed is accepted, without its body if its status allows none. -/
theorem accepted?_eq_some_iff {r accepted : HttpResponse} :
    r.accepted? = some accepted ↔ 200 ≤ r.status ∧ r.fields.all HttpField.isValid = true ∧
      (if r.isBare then { r with body := [] } else r) = accepted := by
  rw [accepted?, ← UInt16.not_lt]
  cases r.fields.all HttpField.isValid <;> cases r.isBare <;> simp

end HttpResponse

namespace TokenEndpoint

variable {now : UnixTime} {failure : String} {http : HttpResponse} {response : TokenResponse}

/-- An answer that was accepted brings tokens exactly if its status tells success and its body says
tokens. -/
theorem answer_eq_ok_iff :
    answer now http = .ok response ↔ http.isSuccess = true ∧
      ∃ grant, readBytes? Grant.ofTree? http.body = some grant ∧ grant.response now = response := by
  unfold answer
  cases hsuccess : http.isSuccess with
  | false => simp
  | true => cases hbody : readBytes? Grant.ofTree? http.body <;> simp

/-- An answer brings tokens exactly if it is well formed, its status tells success, and its body says
tokens. An answer whose status allows no body brings none. -/
theorem outcome_eq_ok_iff :
    outcome now failure (some http) = .ok response ↔
      http.fields.all HttpField.isValid = true ∧ http.isBare = false ∧ http.isSuccess = true ∧
        ∃ grant, readBytes? Grant.ofTree? http.body = some grant ∧
          grant.response now = response := by
  have houtcome : outcome now failure (some http) = .ok response ↔
      ∃ accepted, http.accepted? = some accepted ∧ answer now accepted = .ok response := by
    rw [outcome, Option.bind_some]
    cases http.accepted? <;> simp
  have hempty : readBytes? Grant.ofTree? [] = none := rfl
  simp only [houtcome, HttpResponse.accepted?_eq_some_iff, answer_eq_ok_iff]
  cases hbare : http.isBare with
  | true => simp [hempty]
  | false =>
    constructor
    · rintro ⟨_, ⟨_, hvalid, rfl⟩, htokens⟩
      exact ⟨hvalid, rfl, htokens⟩
    · rintro ⟨hvalid, _, htokens⟩
      exact ⟨http, ⟨HttpResponse.final_of_isSuccess htokens.1, hvalid, rfl⟩, htokens⟩

/-! ### Times -/

variable {grant : Grant}

/-- The tokens expire when their life is over, if there is such a time. -/
theorem Grant.toNat_expiresOn
    (hfits : now.seconds.toNat + grant.lifetime.seconds.toNat < 2 ^ 64) :
    (grant.response now).expiresOn.seconds.toNat =
      now.seconds.toNat + grant.lifetime.seconds.toNat :=
  UnixTime.toNat_after (Nat.le_of_lt_succ hfits)

/-- If the service does not say when to refresh an access token, it is due after half its life, in case
it lives longer than two hours. This is later than now, and earlier than the end of its life. -/
theorem Grant.marker_between (hrefresh : grant.refreshIn = none)
    (hfits : now.seconds.toNat + grant.lifetime.seconds.toNat < 2 ^ 64) {marker : UnixTime}
    (hmarker : marker ∈ (grant.response now).refreshOn) :
    now.before marker = true ∧ marker.before (grant.response now).expiresOn = true := by
  obtain ⟨half, hhalf, rfl⟩ := Option.map_eq_some_iff.1 hmarker
  rw [refreshAfter, hrefresh, Option.none_or, Option.ite_none_right_eq_some, Option.some.injEq]
    at hhalf
  obtain ⟨hlong, rfl⟩ := hhalf
  have hlonger : 7200 < grant.lifetime.seconds.toNat := UInt64.lt_iff_toNat_lt.1 hlong
  let half : Span := ⟨grant.lifetime.seconds / 2⟩
  have hhalf : half.seconds.toNat = grant.lifetime.seconds.toNat / 2 := UInt64.toNat_div _ _
  have hsum : (now.after half).seconds.toNat = now.seconds.toNat + half.seconds.toNat :=
    UnixTime.toNat_after (by rw [hhalf, lastSecond]; omega)
  rw [UnixTime.before_iff, UnixTime.before_iff, Grant.toNat_expiresOn hfits, hsum, hhalf]
  omega

end TokenEndpoint

end SilentAuth
