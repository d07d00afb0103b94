import DataSchema.MetaSchema
import DataSchema.Reference

/-!
# Schema stores

A store holds named schema documents for references to point into. Only legal schemas are inserted.
`Store.fragment` follows a reference into its document and reads the node found there.
-/

namespace DataSchema

structure Store where
  documents : Entries Document
  /-- How deeply inserted documents may be nested. -/
  maxDepth : Nat

namespace Store

def empty : Store := ⟨[], defaultMaxDepth⟩

def withMaxDepth (store : Store) (maxDepth : Nat) : Store := { store with maxDepth := maxDepth }

/-- Adds a document that is a legal schema, or replaces the one of the same name. -/
def insert (store : Store) (name : String) (document : Document) : Except SchemaError Store := do
  MetaSchema.ensure store.maxDepth document
  return { store with documents := store.documents.insert name document }

def get? (store : Store) (name : String) : Option Document := store.documents.lookup name

def contains (store : Store) (name : String) : Bool := (store.get? name).isSome

def names (store : Store) : List String := Text.sorted (store.documents.map Prod.fst)

def size (store : Store) : Nat := store.documents.length

/-- Follows object keys from a document; the error names the first step that does not exist. -/
def follow (document : Document) : List String → Except String Document
  | [] => .ok document
  | step :: rest =>
    match document.get? step with
    | some next => follow next rest
    | none => .error step

/-- The node that a reference points at. -/
def fragment (store : Store) (reference : String) : Except SchemaError Node := do
  let target ← Reference.parse reference
  match store.get? target.name with
  | none => .error (.referenceNotFound reference (.schema target.name))
  | some document =>
    match follow document target.steps with
    | .error step => .error (.referenceNotFound reference (.step target.name step))
    | .ok fragment =>
      match Node.ofDocument? fragment with
      | some node => .ok node
      | none => .error (.malformedReference reference .notANode)

end Store

end DataSchema
