import Mathlib.Data.List.Sort
import SilentAuth.Proofs.Cache.Keys
import SilentAuth.Proofs.Cache.Replacement
import SilentAuth.Proofs.Scope.Coverage
import SilentAuth.Proofs.Text.Words

/-!
# Keys and the order of scopes

The key of an access token ignores the case of what it is made of, and scopes are compared without
regard to case. But the scopes stand in a key in the order in which they are written, and there all
capital letters come before the small ones. So two access tokens of one identity up to case may derive
different keys, and then storing the one does not replace the other.

* `Scopes.Equivalent`: sets of one size that grant each other's scopes.
* `Scopes.AscendsFolded`: sets whose order does not depend on case.
* `Scopes.foldCase_text_eq_iff`: which sets have the same text up to case.
* `AccessTokenRecord.put_of_sameIdentity`: when an access token replaces one of the same identity.
* `AccessTokenRecord.put_beside_sameIdentity`: one that does not.
-/

namespace SilentAuth

/-- What is done to each item is done to joined lists and to what stands between them. -/
theorem map_intercalate {α β : Type} (f : α → β) (sep : List α) :
    ∀ parts : List (List α),
      (sep.intercalate parts).map f = (sep.map f).intercalate (parts.map (List.map f))
  | [] => rfl
  | [part] => by simp [List.intercalate]
  | part :: next :: rest => by
    rw [List.intercalate_cons_cons, List.map_append, List.map_append,
      map_intercalate f sep (next :: rest)]
    exact List.intercalate_cons_cons.symm

namespace Scopes

/-! ### Sets of the same scopes -/

/-- Two sets hold the same number of names, and each has every name of the other one, up to case. -/
structure Equivalent (s t : Scopes) : Prop where
  covers : s.containsAll t = true
  covered : t.containsAll s = true
  size : s.names.length = t.names.length

/-- The names of a set ascend strictly when their case is disregarded. -/
def AscendsFolded (s : Scopes) : Prop := (s.names.map foldCase).Pairwise (· < ·)

instance (s : Scopes) : Decidable s.AscendsFolded :=
  inferInstanceAs (Decidable (List.Pairwise _ _))

variable {s t : Scopes}

/-- If case plays no part in their order, equivalent sets have the same names in the same order. -/
theorem Equivalent.map_foldCase_eq (h : s.Equivalent t) (hs : s.AscendsFolded)
    (ht : t.AscendsFolded) : s.names.map foldCase = t.names.map foldCase := by
  have hfolded : s.folded = t.folded := containsAll_antisymm h.covers h.covered
  refine List.Pairwise.eq_of_mem_iff hs ht ?_
  intro name
  rw [List.mem_map, List.mem_map, ← mem_folded, ← mem_folded, hfolded]

/-! ### Their texts -/

/-- The text of a set, folded. -/
theorem foldCase_text (s : Scopes) :
    foldCase s.text = String.intercalate " " (s.names.map foldCase) := by
  have hspace : " ".toList.map Char.toLower = " ".toList := rfl
  have hnames : s.names.map (fun name => name.toList.map Char.toLower) =
      s.names.map fun name => (foldCase name).toList :=
    List.map_congr_left fun name _ => (toList_foldCase name).symm
  apply String.toList_inj.1
  rw [text, toList_foldCase, String.toList_intercalate, String.toList_intercalate, map_intercalate,
    hspace, List.map_map, List.map_map]
  exact congrArg _ hnames

/-- Sets of words have the same text up to case exactly if they have the same names in the same order,
up to case. -/
theorem foldCase_text_eq_iff (hs : ∀ name ∈ s.names, IsWord name)
    (ht : ∀ name ∈ t.names, IsWord name) :
    foldCase s.text = foldCase t.text ↔ s.names.map foldCase = t.names.map foldCase := by
  have hwords {u : Scopes} (hu : ∀ name ∈ u.names, IsWord name) :
      words (foldCase u.text) = u.names.map foldCase := by
    rw [foldCase_text, words_intercalate, List.flatMap_map, ← List.flatMap_pure_eq_map]
    refine List.flatMap_congr ?_
    intro name hname
    exact words_of_isWord ((hu name hname).of_foldCase (foldCase_foldCase name).symm)
  constructor
  · intro htext
    rw [← hwords hs, htext, hwords ht]
  · intro hnames
    rw [foldCase_text, foldCase_text, hnames]

end Scopes

/-! ### Records in a bucket -/

namespace AccessTokenRecord

/-- Two access tokens have the same user, host, client and tenant and equivalent scopes. -/
structure SameIdentity (r r' : AccessTokenRecord) : Prop where
  home : sameText r.homeAccountId r'.homeAccountId = true
  environment : sameText r.environment r'.environment = true
  client : sameText r.clientId r'.clientId = true
  realm : sameText r.realm r'.realm = true
  target : r.target.Equivalent r'.target

variable {r r' : AccessTokenRecord}

/-- Only the order of their scopes can keep the keys of such tokens apart. -/
theorem SameIdentity.key_eq_iff (h : r.SameIdentity r') :
    CacheRecord.key r = CacheRecord.key r' ↔
      foldCase r.target.text = foldCase r'.target.text := by
  refine CacheKey.accessToken_eq_iff.trans ?_
  simp only [sameText_iff.1 h.home, sameText_iff.1 h.environment, sameText_iff.1 h.client,
    sameText_iff.1 h.realm, true_and]

/-- **When an access token replaces one of the same identity.** It derives the same key and replaces the
other one, wherever they are stored, exactly if the texts of their scopes are the same up to case; if
they are not, both are kept. For scopes that are words this means that they stand in the same order, and
it is so whenever case plays no part in the order of either set. -/
theorem put_of_sameIdentity (h : r.SameIdentity r') (bucket : Bucket AccessTokenRecord) :
    (if foldCase r.target.text = foldCase r'.target.text
      then CacheRecord.key r = CacheRecord.key r' ∧ (bucket.put r).put r' = bucket.put r'
      else CacheRecord.key r ≠ CacheRecord.key r' ∧
        ((bucket.put r).put r').find? (CacheRecord.key r) = some r) ∧
    ((∀ name ∈ r.target.names, IsWord name) → (∀ name ∈ r'.target.names, IsWord name) →
      (foldCase r.target.text = foldCase r'.target.text ↔
        r.target.names.map foldCase = r'.target.names.map foldCase)) ∧
    (r.target.AscendsFolded → r'.target.AscendsFolded →
      foldCase r.target.text = foldCase r'.target.text) := by
  refine ⟨?_, Scopes.foldCase_text_eq_iff, ?_⟩
  · split
    · rename_i htext
      have hkey := h.key_eq_iff.2 htext
      exact ⟨hkey, bucket.put_put_of_key_eq hkey⟩
    · rename_i htext
      have hkey := mt h.key_eq_iff.1 htext
      exact ⟨hkey, bucket.find?_put_put_of_key_ne hkey⟩
  · intro hr hr'
    rw [Scopes.foldCase_text, Scopes.foldCase_text, h.target.map_foldCase_eq hr hr']

/-! ### Scopes written in different cases -/

namespace Sample

/-- An access token of a user for the scopes that a text says. -/
def token (secret scopes : String) : AccessTokenRecord where
  homeAccountId := "uid.utid"
  environment := "login.windows.net"
  credentialType := .accessToken
  clientId := "client"
  secret := secret
  realm := "utid"
  target := .ofText scopes
  cachedAt := ⟨1000⟩
  expiresOn := ⟨9000⟩
  extendedExpiresOn := none
  refreshOn := none
  extra := .empty

end Sample

/-- A token whose scopes are written in another case, but in the same order, replaces the other one. -/
theorem put_of_sameIdentity_replaced :
    let r := Sample.token "old" "Files.Read Mail.Read"
    let r' := Sample.token "new" "mail.READ files.read"
    r.SameIdentity r' ∧ r.target.AscendsFolded ∧ r'.target.AscendsFolded ∧
      CacheRecord.key r = CacheRecord.key r' ∧
      (Bucket.put .empty r).put r' = Bucket.put .empty r' := by
  intro r r'
  have hsame : r.SameIdentity r' := by
    refine ⟨?_, ?_, ?_, ?_, ?_, ?_, ?_⟩ <;> decide +kernel
  have hr : r.target.AscendsFolded := by decide +kernel
  have hr' : r'.target.AscendsFolded := by decide +kernel
  obtain ⟨hreplaces, _, htexts⟩ := put_of_sameIdentity hsame .empty
  rw [if_pos (htexts hr hr')] at hreplaces
  exact ⟨hsame, hr, hr', hreplaces⟩

/-- A token for the same scopes derives another key, since the case of one letter puts them in another
order, and both tokens are kept. -/
theorem put_beside_sameIdentity :
    let r := Sample.token "old" "Mail.Read user.read"
    let r' := Sample.token "new" "mail.read User.Read"
    r.SameIdentity r' ∧ CacheRecord.key r ≠ CacheRecord.key r' ∧
      CacheRecord.key r = "uid.utid-login.windows.net-accesstoken-client-utid-mail.read user.read" ∧
      CacheRecord.key r' = "uid.utid-login.windows.net-accesstoken-client-utid-user.read mail.read" ∧
      ((Bucket.put .empty r).put r').values.map AccessTokenRecord.secret = ["old", "new"] := by
  intro r r'
  refine ⟨⟨?_, ?_, ?_, ?_, ?_, ?_, ?_⟩, ?_, ?_, ?_, ?_⟩ <;> decide +kernel

end AccessTokenRecord

end SilentAuth
