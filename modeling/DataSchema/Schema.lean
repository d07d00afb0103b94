import DataSchema.Conversion
import DataSchema.Fingerprint
import DataSchema.Merge
import DataSchema.Resolution
import DataSchema.Validation.Walk

/-!
# Schemas

A loader turns a document into a schema: it checks that the document is legal, reads it, and
resolves its references against a store. The schema keeps the node as written, the resolved root,
and everything needed to apply it: validation, conversion, merging and navigation only read it. A
schema is extended by merging a fragment into the node as written and building the result again.
-/

namespace DataSchema

structure Loader where
  store : Store
  formats : Formats
  maxDepth : Nat

structure Schema where
  /-- The node as written, references included. -/
  source : Node
  root : Node
  patterns : Patterns
  fingerprint : Fingerprint
  loader : Loader

namespace Loader

def standard : Loader := ⟨Store.empty, Formats.builtin, defaultMaxDepth⟩

def surroundings (loader : Loader) : Surroundings := ⟨loader.store, loader.formats, loader.maxDepth⟩

/-- Resolves a node without checking its legality. -/
def build (loader : Loader) (source : Node) : Except SchemaError Schema := do
  let (root, patterns) ← source.resolve loader.surroundings
  return { source, root, patterns, fingerprint := Fingerprint.ofDocument source.toDocument, loader }

def read (document : Document) : Except SchemaError Node :=
  match Node.ofDocument? document with
  | some node => .ok node
  | none => .error .json

/-- Loads a schema document. -/
def load (loader : Loader) (document : Document) : Except SchemaError Schema := do
  MetaSchema.ensure loader.maxDepth document
  let source ← read document
  loader.build source

end Loader

namespace Schema

def rules (schema : Schema) : Rules :=
  ⟨schema.patterns, schema.loader.formats, schema.loader.maxDepth⟩

/-- Merges a legal fragment into the schema as written and builds the result. -/
def extend (schema : Schema) (fragment : Document) : Except SchemaError Schema := do
  MetaSchema.ensure schema.loader.maxDepth fragment
  let overlay ← Loader.read fragment
  let merged ← (schema.source.extend overlay []).mapError SchemaError.ofKindConflict
  MetaSchema.ensure schema.loader.maxDepth merged.toDocument
  schema.loader.build merged

/-- Whether a step into a list is an index: an unsigned number of one machine word. -/
def isIndex (step : String) : Bool := (Text.unsigned? step.toList).any (· < wordCount)

/-- The node one step below: a key of a dict; an index of a list, or
directly a key of its elements. -/
def stepBelow? (node : Node) (step : String) : Option Node :=
  match node with
  | .dict .. => node.child? step
  | .list _ items _ => if isIndex step then items else items.bind (·.child? step)
  | _ => none

/-- Goes down from a node; `taken` are the steps that led to it. -/
def navigate (node : Node) (taken : List String) : List String → Except SchemaError Node
  | [] => .ok node
  | step :: rest =>
    match stepBelow? node step with
    | some next => navigate next (taken ++ [step]) rest
    | none => .error (.pathNotFound (taken ++ [step]))

/-- The node that governs the data at a path. -/
def subschema (schema : Schema) (steps : List String) : Except SchemaError Node :=
  navigate schema.root [] steps

/-- The steps of a path with points, such as `vlans.0.id`. -/
def dottedSteps (path : String) : List String := Text.steps '.' path.toList

/-- What is wrong with an instance that a node governs. -/
def findingsAt (schema : Schema) (node : Node) (value : Document) : List Finding :=
  node.findings schema.rules 0 none value

def validate (schema : Schema) (value : Document) : List Finding :=
  schema.findingsAt schema.root value

/-- Whether nothing is wrong with an instance that a node governs; it is looked into
up to its first finding. -/
def isValidAt (schema : Schema) (node : Node) (value : Document) : Bool :=
  ((Walk.start node value).next? schema.rules).isNone

def isValid (schema : Schema) (value : Document) : Bool := schema.isValidAt schema.root value

def convert (schema : Schema) (value : Document) : Document × List Note :=
  schema.root.convert schema.loader.maxDepth 0 value

/-- Converts an instance and validates the result. -/
def convertAndValidate (schema : Schema) (value : Document) : Document × List Note × List Finding :=
  let (converted, notes) := schema.convert value
  (converted, notes, schema.validate converted)

def mergeOptions (schema : Schema) (strategy : ListStrategy) : MergeOptions :=
  ⟨strategy, schema.loader.maxDepth⟩

def merge (schema : Schema) (strategy : ListStrategy) (base overlay : Document) :
    Except MergeError Document :=
  base.merge (schema.mergeOptions strategy) (some schema.root) overlay

/-- The schema of schema nodes of a kind. -/
def ofKind (kind : Kind) : Except SchemaError Schema := Loader.standard.build (MetaSchema.node kind)

end Schema

end DataSchema
