import SilentAuth.Cache.Store

/-!
# The text of a store

A store is persisted as one JSON object: a member for each bucket, in a fixed order, then the
unrecognized sections by name. A bucket that is absent reads as an empty one.
-/

namespace SilentAuth

namespace Store

/-- The names of the buckets in a document, in the order in which they are written. -/
def sectionNames : List String :=
  ["AccessToken", "RefreshToken", "IdToken", "Account", "AppMetadata"]

/-- A bucket as an object. -/
def bucketJson {α : Type} [CacheRecord α] (bucket : Bucket α) : Json :=
  .object (bucket.entries.map fun e => (e.1, CacheRecord.toJson e.2))

/-- The document of a store. -/
def toJson (s : Store) : Json :=
  .object
    ([("AccessToken", bucketJson s.accessTokens), ("RefreshToken", bucketJson s.refreshTokens),
      ("IdToken", bucketJson s.idTokens), ("Account", bucketJson s.accounts),
      ("AppMetadata", bucketJson s.appMetadata)] ++ s.other.entries)

/-- The text of a store. -/
def text (s : Store) : String := s.toJson.text

/-- Reads a store from a document, with at most `depth` containers around each other. -/
def ofTree? (depth : Nat) (tree : ParseTree) : Option Store := do
  let fields : Fields ← tree.members? depth
  let bucketDepth := depth - 1
  return {
    accessTokens := ←
      fields.defaulted? "AccessToken" .empty (ParseTree.dict? bucketDepth CacheRecord.read?)
    refreshTokens := ←
      fields.defaulted? "RefreshToken" .empty (ParseTree.dict? bucketDepth CacheRecord.read?)
    idTokens := ←
      fields.defaulted? "IdToken" .empty (ParseTree.dict? bucketDepth CacheRecord.read?)
    accounts := ←
      fields.defaulted? "Account" .empty (ParseTree.dict? bucketDepth CacheRecord.read?)
    appMetadata := ←
      fields.defaulted? "AppMetadata" .empty (ParseTree.dict? bucketDepth CacheRecord.read?)
    other := ← fields.others? bucketDepth sectionNames }

/-- Reads a store from the text of a document. -/
def read? (text : String) : Option Store := do
  ofTree? Json.depthLimit (← ParseTree.read? text)

end Store

end SilentAuth
