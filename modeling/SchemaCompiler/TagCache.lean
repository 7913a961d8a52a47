import SchemaCompiler.Attributes
import SchemaCompiler.Relation.Tag

/-!
# Tags read once

A run reads equal tags once. A relationship tag that is refused is read again
each time, with a map of options that may have another order.
-/

namespace SchemaCompiler

structure TagCache where
  attributes : List (String × Attributes) := []
  relationships : List (String × Relationship) := []
  hits : Nat := 0
  misses : Nat := 0

namespace TagCache

def readAttributes (cache : TagCache) (raw : String) : Attributes × TagCache :=
  match cache.attributes.lookup raw with
  | some attributes => (attributes, { cache with hits := cache.hits + 1 })
  | none =>
    let attributes := Attributes.parse raw
    (attributes, { cache with
      attributes := (raw, attributes) :: cache.attributes, misses := cache.misses + 1 })

def readRelationship (cache : TagCache) (raw : String) (order : MapOrder := .asGiven) :
    Except RelationTagError Relationship × TagCache :=
  match cache.relationships.lookup raw with
  | some relationship => (.ok relationship, { cache with hits := cache.hits + 1 })
  | none =>
    let missed := { cache with misses := cache.misses + 1 }
    match Relationship.parse raw order with
    | .error e => (.error e, missed)
    | .ok relationship =>
      (.ok relationship,
        { missed with relationships := (raw, relationship) :: cache.relationships })

def size (cache : TagCache) : Nat :=
  cache.attributes.length + cache.relationships.length

end TagCache

end SchemaCompiler
