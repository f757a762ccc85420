import SilentAuth.Cache.Record

/-!
# The credential store

Five buckets of records and whatever other sections a cache document has. A bucket keys its records
by text; other programs may have stored a record under a key that it does not derive, so storing a
record also drops those that derive the same key. Lookups compare the fields of records and never
look at keys. Main statements: what a bucket holds after `put`.
-/

namespace SilentAuth

/-- Records of one kind, by the keys they are stored under. -/
abbrev Bucket (α : Type) := Dict α

namespace Bucket

variable {α : Type} [CacheRecord α]

/-- Stores a record under the key it derives, in place of the one stored there and of all that
derive the same key. -/
def put (bucket : Bucket α) (record : α) : Bucket α :=
  let key := CacheRecord.key record
  (bucket.filter fun stored existing => stored != key && CacheRecord.key existing != key).insert
    key record

/-- Stores a record under the key it derives, joined with the one stored there, if any. -/
def upsert (bucket : Bucket α) (record : α) : Bucket α :=
  let key := CacheRecord.key record
  bucket.insert key ((bucket.find? key).elim record (CacheRecord.merge · record))

/-- The bucket `old` brought up to date: records whose keys are gone from `update` are dropped,
and every record of `update` is stored, joined with the one that `old` has under its key. -/
def merge (old update : Bucket α) : Bucket α :=
  Dict.mergeWith CacheRecord.merge (old.filter fun key _ => update.contains key) update

/-- What is put stands under its own key. -/
@[simp] theorem find?_put_self (bucket : Bucket α) (record : α) :
    (bucket.put record).find? (CacheRecord.key record) = some record := by
  simp [put]

/-- Under every other key a record stays, unless it derives the key of the one that is put. -/
theorem find?_put_of_ne (bucket : Bucket α) {record : α} {stored : String}
    (h : stored ≠ CacheRecord.key record) :
    (bucket.put record).find? stored =
      (bucket.find? stored).filter fun existing =>
        CacheRecord.key existing != CacheRecord.key record := by
  rw [put, Dict.find?_insert_of_ne _ h, Dict.find?_filter]
  have hne : (stored != CacheRecord.key record) = true := bne_iff_ne.2 h
  simp only [hne, Bool.true_and]

end Bucket

/-- The cached credentials. -/
structure Store where
  accessTokens : Bucket AccessTokenRecord
  refreshTokens : Bucket RefreshTokenRecord
  idTokens : Bucket IdTokenRecord
  accounts : Bucket AccountRecord
  appMetadata : Bucket AppMetadataRecord
  /-- The sections of the document that are not recognized. -/
  other : Json.Members

namespace Store

/-- The store without records and sections. -/
def empty : Store := ⟨.empty, .empty, .empty, .empty, .empty, .empty⟩

instance : Inhabited Store := ⟨empty⟩

/-- Whether all five buckets are empty. -/
def isEmpty (s : Store) : Bool :=
  s.accessTokens.isEmpty && s.refreshTokens.isEmpty && s.idTokens.isEmpty && s.accounts.isEmpty &&
    s.appMetadata.isEmpty

/-- Stores an access token. -/
def putAccessToken (s : Store) (r : AccessTokenRecord) : Store :=
  { s with accessTokens := s.accessTokens.put r }

/-- Stores a refresh token. -/
def putRefreshToken (s : Store) (r : RefreshTokenRecord) : Store :=
  { s with refreshTokens := s.refreshTokens.put r }

/-- Stores an ID token. -/
def putIdToken (s : Store) (r : IdTokenRecord) : Store :=
  { s with idTokens := s.idTokens.put r }

/-- Stores an account. -/
def putAccount (s : Store) (r : AccountRecord) : Store :=
  { s with accounts := s.accounts.put r }

/-- Stores what is known about an application. -/
def putAppMetadata (s : Store) (r : AppMetadataRecord) : Store :=
  { s with appMetadata := s.appMetadata.put r }

/-- The number of records that belong to accounts: all but those about applications. -/
def credentialCount (s : Store) : Nat :=
  s.accessTokens.size + s.refreshTokens.size + s.idTokens.size + s.accounts.size

/-- Whether a record belongs to an account signed in through one of the hosts. -/
def belongs (homeAccountId : String) (aliases : List String) (recordHome recordHost : String) :
    Bool :=
  sameText recordHome homeAccountId && listed recordHost aliases

/-- Drops the tokens and records of an account under all the hosts. -/
def withoutAccount (s : Store) (homeAccountId : String) (aliases : List String) : Store :=
  let keep (home host : String) : Bool := !belongs homeAccountId aliases home host
  { s with
    accessTokens := s.accessTokens.filter fun _ r => keep r.homeAccountId r.environment
    refreshTokens := s.refreshTokens.filter fun _ r => keep r.homeAccountId r.environment
    idTokens := s.idTokens.filter fun _ r => keep r.homeAccountId r.environment
    accounts := s.accounts.filter fun _ r => keep r.homeAccountId r.environment }

/-- Removes an account, and says how many records went. -/
def removeAccount (s : Store) (homeAccountId : String) (aliases : List String) : Nat × Store :=
  let kept := s.withoutAccount homeAccountId aliases
  (s.credentialCount - kept.credentialCount, kept)

/-- The document `old` brought up to date with the store `update`. -/
def merge (old update : Store) : Store where
  accessTokens := old.accessTokens.merge update.accessTokens
  refreshTokens := old.refreshTokens.merge update.refreshTokens
  idTokens := old.idTokens.merge update.idTokens
  accounts := old.accounts.merge update.accounts
  appMetadata := old.appMetadata.merge update.appMetadata
  other := old.other.merge update.other

end Store

end SilentAuth
