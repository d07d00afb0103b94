import DataSchema.Schema

/-!
# Caches of loaded schemas

A cache belongs to one loader and keeps the schemas it has loaded by the fingerprint of their
documents. Every schema object that the cache makes carries a serial number, so that handing out the
same object again can be told from loading an equal one.
-/

namespace DataSchema

/-- A schema object handed out by a cache. -/
structure CachedSchema where
  serial : Nat
  schema : Schema

structure Cache where
  loader : Loader
  entries : List (Fingerprint × CachedSchema)
  /-- The serial number of the next object. -/
  next : Nat

namespace Cache

def new (loader : Loader) : Cache := ⟨loader, [], 0⟩

/-- The schema of a document, loaded when the cache does not hold it. A failure
leaves the cache alone. -/
def getOrLoad (cache : Cache) (document : Document) : Except SchemaError (CachedSchema × Cache) :=
  let key := Fingerprint.ofDocument document
  match cache.entries.lookup key with
  | some cached => .ok (cached, cache)
  | none => do
    let schema ← cache.loader.load document
    let cached : CachedSchema := ⟨cache.next, schema⟩
    return (cached,
      { cache with entries := cache.entries ++ [(key, cached)], next := cache.next + 1 })

def size (cache : Cache) : Nat := cache.entries.length

def clear (cache : Cache) : Cache := { cache with entries := [] }

end Cache

end DataSchema
