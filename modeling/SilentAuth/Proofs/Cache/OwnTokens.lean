import SilentAuth.Proofs.Cache.Bare
import SilentAuth.Proofs.Cache.Keeping
import SilentAuth.Proofs.Text.Words
import SilentAuth.Storage

/-!
# Tokens of the application itself

An access token that is cached without a home account counts as a token of the application itself:
no user is needed to get it from the cache. Which ones a cache holds changes in one way only. A
response is saved that tells no home account, for no account that has one; everything else that
happens to a store, a document or a storage adds no such token.

* `Store.OwnTokensIn`: all tokens of the application itself that a store holds satisfy a condition.
* `Store.OwnTokensIn.saveResponse`: the one change that can add such a token.
* `TokenCache.OwnTokensIn.save`, `Storage.ownTokensIn_load`, `Storage.ownTokensIn_store`: the
  condition is kept from one access to the next.
* `Issued.homeAccountId_eq_empty_iff`: when a response is saved without a home account.
-/

namespace SilentAuth

variable {P Q : String → Prop}

/-! ### Responses without a home account -/

/-- A home account that is told is not empty. -/
theorem ClientInfo.ne_empty_of_homeAccountId? {info : ClientInfo} {home : String}
    (h : info.homeAccountId? = some home) : home ≠ "" := by
  unfold homeAccountId? at h
  split at h
  · rename_i uid utid _ _
    cases h
    intro hempty
    have hlength := congrArg String.length hempty
    simp at hlength
  · cases h

/-- A response is saved without a home account if it tells none, and the request was made for no
account, or for one without an identifier. -/
theorem Issued.homeAccountId_eq_empty_iff {i : Issued} : i.homeAccountId = "" ↔
    i.clientInfo.homeAccountId? = none ∧
      ∀ account, i.context.account = some account → account.homeAccountId = "" := by
  unfold homeAccountId
  cases hinfo : i.clientInfo.homeAccountId? with
  | some home => simp [ClientInfo.ne_empty_of_homeAccountId? hinfo]
  | none => cases i.context.account <;> simp

/-! ### Stores -/

namespace Store

/-- The tokens of the application itself that a store holds are those of access token records
without a home account; all of them satisfy a condition. -/
def OwnTokensIn (P : String → Prop) (s : Store) : Prop :=
  ∀ r ∈ s.accessTokens.values, r.homeAccountId = "" → P r.secret

variable {s : Store}

/-- Tokens that satisfy a condition satisfy a weaker one. -/
theorem OwnTokensIn.mono (h : s.OwnTokensIn P) (hPQ : ∀ token, P token → Q token) :
    s.OwnTokensIn Q :=
  fun r hr hhome => hPQ r.secret (h r hr hhome)

/-- Saving a response adds such a token only if it is saved without a home account. -/
theorem OwnTokensIn.saveResponse (h : s.OwnTokensIn P) {i : Issued}
    (hnew : i.homeAccountId = "" → P i.response.accessToken) :
    (s.saveResponse i).OwnTokensIn P := by
  unfold OwnTokensIn
  rw [accessTokens_saveResponse]
  exact Bucket.forall_values_put (fun r hr => h r (Dict.mem_values_of_filter hr)) hnew

/-- The condition is kept when an account is removed. -/
theorem OwnTokensIn.withoutAccount (h : s.OwnTokensIn P) (homeAccountId : String)
    (aliases : List String) : (s.withoutAccount homeAccountId aliases).OwnTokensIn P :=
  fun r hr => h r (Dict.mem_values_of_filter hr)

/-- Merging adds to the records of a store nothing but fields that are not recognized. -/
theorem OwnTokensIn.merge (h : s.OwnTokensIn P) (old : Store) : (old.merge s).OwnTokensIn P :=
  Bucket.forall_values_merge_of_update (fun _ _ hnew => hnew) h old.accessTokens

/-- What a document says of such a token is what it says in memory, but for the scopes. -/
theorem OwnTokensIn.reread (h : s.OwnTokensIn P) : s.reread.OwnTokensIn P :=
  Bucket.forall_values_reread (fun hwritten => hwritten) h

/-- What is found without a home account is such a token. -/
theorem OwnTokensIn.of_findAccessToken (h : s.OwnTokensIn P) {q : AccessTokenQuery}
    (hq : q.homeAccountId = none) {r : AccessTokenRecord} (hr : s.findAccessToken q = some r) :
    P r.secret := by
  unfold findAccessToken at hr
  have hwanted := List.find?_some hr
  have hmatch := (Bool.and_eq_true_iff.1 hwanted).1
  obtain ⟨hhome, _⟩ := AccessTokenQuery.isMatch_iff.1 hmatch
  rw [hq, Option.getD_none, sameText_iff] at hhome
  exact h r (List.mem_of_find?_eq_some hr) (eq_empty_of_foldCase hhome)

end Store

/-! ### Caches -/

namespace TokenCache

/-- All tokens of the application itself that a cache holds satisfy a condition, and the cache is
made of documents, so that what it hands out can be read again. -/
structure OwnTokensIn (P : String → Prop) (c : TokenCache) : Prop where
  tokens : c.store.OwnTokensIn P
  fits : c.store.Fits
  baseline : ∀ b, c.baseline = some b → b.Fits

variable {c : TokenCache}

/-- A cache that keeps a condition keeps a weaker one. -/
theorem OwnTokensIn.mono (h : c.OwnTokensIn P) (hPQ : ∀ token, P token → Q token) :
    c.OwnTokensIn Q :=
  ⟨h.tokens.mono hPQ, h.fits, h.baseline⟩

/-- A change of the store keeps the condition if it keeps it there. -/
theorem OwnTokensIn.modify (h : c.OwnTokensIn P) {change : Store → Store}
    (htokens : (change c.store).OwnTokensIn P) (hfits : (change c.store).Fits) :
    (c.modify change).OwnTokensIn P :=
  ⟨htokens, hfits, h.baseline⟩

/-- The document to persist holds no other such tokens than the store in memory. -/
theorem OwnTokensIn.document (h : c.OwnTokensIn P) : c.document.OwnTokensIn P := by
  unfold TokenCache.document
  cases c.baseline with
  | none => exact h.tokens
  | some b => exact h.tokens.merge b

/-- The condition is kept when a cache is handed out. -/
theorem OwnTokensIn.save (h : c.OwnTokensIn P) : c.save.2.OwnTokensIn P := by
  have hfits : c.document.Fits := fits_document h.fits h.baseline
  refine ⟨h.document, hfits, ?_⟩
  intro b hb
  cases hb
  exact hfits

end TokenCache

/-! ### What is persisted -/

/-- All tokens of the application itself in the document that is persisted, if there is one, satisfy
a condition. -/
def Persisted.OwnTokensIn (P : String → Prop) (p : Persisted) : Prop :=
  ∀ text, p = .text text → ∀ c, TokenCache.load? text = some c → c.store.OwnTokensIn P

/-- What is persisted and satisfies a condition satisfies a weaker one. -/
theorem Persisted.OwnTokensIn.mono {p : Persisted} (h : p.OwnTokensIn P)
    (hPQ : ∀ token, P token → Q token) : p.OwnTokensIn Q :=
  fun text htext c hc => (h text htext c hc).mono hPQ

/-- The text that is handed out says no other such tokens than the cache holds. -/
theorem TokenCache.OwnTokensIn.persisted {c : TokenCache} (h : c.OwnTokensIn P) :
    (Persisted.text c.save.1).OwnTokensIn P := by
  intro text htext found hfound
  cases htext
  rw [load?_save (fits_document h.fits h.baseline)] at hfound
  cases hfound
  exact h.document.reread

namespace Storage

variable {storage : Storage} {c : TokenCache}

/-- A cache keeps the condition when what is persisted is loaded. -/
theorem ownTokensIn_load (hstorage : storage.content.OwnTokensIn P) (hc : c.OwnTokensIn P)
    {loaded : TokenCache} (h : storage.load c = .ok loaded) : loaded.OwnTokensIn P := by
  unfold load at h
  split at h
  · cases h
  split at h
  · cases h
    exact hc
  · rename_i text hcontent
    cases hload : TokenCache.load? text with
    | none =>
      rw [hload] at h
      cases h
    | some found =>
      rw [hload] at h
      cases h
      have hdocumented := TokenCache.documented_of_load? hload
      exact ⟨hstorage text hcontent _ hload, hdocumented.fits, hdocumented.baseline⟩
  · cases h

/-- A cache and what is persisted keep the condition when the cache is stored, whether that succeeds
or not. -/
theorem ownTokensIn_store (hstorage : storage.content.OwnTokensIn P) (hc : c.OwnTokensIn P) :
    (storage.store c).2.1.content.OwnTokensIn P ∧ (storage.store c).2.2.OwnTokensIn P := by
  unfold store
  split
  · exact ⟨hstorage, hc⟩
  split
  · exact ⟨hstorage, hc⟩
  split
  · exact ⟨hc.persisted, hc.save⟩
  · exact ⟨hstorage, hc.save⟩

/-- The condition is kept when someone else persists what satisfies it. -/
theorem ownTokensIn_overwrite (hstorage : storage.content.OwnTokensIn P) {content : Persisted}
    (hcontent : content.OwnTokensIn P) : (storage.overwrite content).content.OwnTokensIn P := by
  unfold overwrite
  split
  · exact hcontent
  · exact hstorage

end Storage

end SilentAuth
