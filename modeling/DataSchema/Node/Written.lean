import DataSchema.Node.Basic
import DataSchema.Document.Compact

/-!
# Nodes as documents

A schema is written as a document: every node is an object with a `type` and the fields of its kind.
`Node.ofDocument?` reads one; the type is a text, fields of other kinds and unknown fields are
ignored, null means that a field is not set, and a known field of the wrong form refuses the whole
document. `Node.toDocument` writes a node with the short kind names and a fixed order of fields.
-/

namespace DataSchema

namespace Field

/-- A field of an object. Absent and null fields are not set; another value must be read by `read`.
The outer option tells whether the field has a legal form. -/
def optional {α : Type} (read : Document → Option α) (key : String) (entries : Entries Document) :
    Option (Option α) :=
  match entries.lookup key with
  | none => some none
  | some .null => some none
  | some value => (read value).map some

def text? : Document → Option String
  | .string s => some s
  | _ => none

def flag? : Document → Option Bool
  | .bool b => some b
  | _ => none

def word? : Document → Option Int
  | .int i => if isSignedWord i then some i else none
  | _ => none

def length? : Document → Option Nat
  | .int i => if 0 ≤ i ∧ i < wordCount then some i.toNat else none
  | _ => none

def kind? (document : Document) : Option Kind := (text? document).bind Kind.ofName?

def listOf {α : Type} (read : Document → Option α) : Document → Option (List α)
  | .array elements => elements.mapM read
  | _ => none

end Field

namespace Attributes

open DataSchema.Field in
def ofEntries? (entries : Entries Document) : Option Attributes := do
  let reference ← optional text? "$ref" entries
  let required ← optional flag? "required" entries
  let fallback ← optional some "default" entries
  let description ← optional text? "description" entries
  let displayName ← optional text? "display_name" entries
  let convertTypes ← optional (listOf kind?) "convert_types" entries
  return { reference, required, fallback, description, displayName, convertTypes }

end Attributes

open DataSchema.Field in
def TextConstraints.ofEntries? (entries : Entries Document) : Option TextConstraints := do
  let validValues ← optional (listOf text?) "valid_values" entries
  let minLength ← optional length? "min_length" entries
  let maxLength ← optional length? "max_length" entries
  let pattern ← optional text? "pattern" entries
  let format ← optional text? "format" entries
  let convertToLowerCase ← optional flag? "convert_to_lower_case" entries
  return { validValues, minLength, maxLength, pattern, format, convertToLowerCase }

open DataSchema.Field in
def IntConstraints.ofEntries? (entries : Entries Document) : Option IntConstraints := do
  let validValues ← optional (listOf word?) "valid_values" entries
  let min ← optional word? "min" entries
  let max ← optional word? "max" entries
  return { validValues, min, max }

open DataSchema.Field in
def BoolConstraints.ofEntries? (entries : Entries Document) : Option BoolConstraints := do
  let validValues ← optional (listOf flag?) "valid_values" entries
  return { validValues }

open DataSchema.Field in
def ListConstraints.ofEntries? (entries : Entries Document) : Option ListConstraints := do
  let primaryKey ← optional text? "primary_key" entries
  let minLength ← optional length? "min_length" entries
  let maxLength ← optional length? "max_length" entries
  return { primaryKey, minLength, maxLength }

namespace Node

mutual

/-- Reads a node. -/
def ofDocument? : Document → Option Node
  | .object entries => do
    let kind ← (entries.lookup "type").bind Field.kind?
    let attributes ← Attributes.ofEntries? entries
    match kind with
    | .str => return .str attributes (← TextConstraints.ofEntries? entries)
    | .int => return .int attributes (← IntConstraints.ofEntries? entries)
    | .bool => return .bool attributes (← BoolConstraints.ofEntries? entries)
    | .dict =>
      let keys ← keysField? entries
      let dynamicKeys ← nodeField? "dynamic_keys" entries
      let allowOtherKeys ← Field.optional Field.flag? "allow_other_keys" entries
      return .dict attributes keys dynamicKeys allowOtherKeys
    | .list =>
      let items ← nodeField? "items" entries
      return .list attributes items (← ListConstraints.ofEntries? entries)
  | _ => none

/-- Reads the field of the given name as a node. -/
def nodeField? (name : String) : List (String × Document) → Option (Option Node)
  | [] => some none
  | (key, value) :: rest =>
    if name == key then
      if value.isNull then some none else (ofDocument? value).map some
    else nodeField? name rest

/-- Reads the field `keys` as nodes by key. -/
def keysField? : List (String × Document) → Option (Option (List (String × Node)))
  | [] => some none
  | (key, value) :: rest =>
    if "keys" == key then
      match value with
      | .null => some none
      | .object entries => (keyNodes? entries).map some
      | _ => none
    else keysField? rest

def keyNodes? : List (String × Document) → Option (List (String × Node))
  | [] => some []
  | (key, value) :: rest => do
    let node ← ofDocument? value
    let nodes ← keyNodes? rest
    return (key, node) :: nodes

end

end Node

namespace Field

/-- The entry of a field, if it is set. -/
def entry {α : Type} (key : String) (write : α → Document) (value : Option α) : Entries Document :=
  match value with
  | some value => [(key, write value)]
  | none => []

def ofLength (n : Nat) : Document := .int n

def ofList {α : Type} (write : α → Document) (values : List α) : Document :=
  .array (values.map write)

def ofKind (kind : Kind) : Document := .string kind.name

end Field

open DataSchema.Field

def Attributes.toEntries (a : Attributes) : Entries Document :=
  entry "$ref" .string a.reference ++ entry "required" .bool a.required ++
    entry "default" id a.fallback
    ++ entry "description" .string a.description ++ entry "display_name" .string a.displayName
    ++ entry "convert_types" (ofList ofKind) a.convertTypes

def TextConstraints.toEntries (c : TextConstraints) : Entries Document :=
  entry "valid_values" (ofList .string) c.validValues ++ entry "min_length" ofLength c.minLength
    ++ entry "max_length" ofLength c.maxLength ++ entry "pattern" .string c.pattern
    ++ entry "format" .string c.format ++ entry "convert_to_lower_case" .bool c.convertToLowerCase

def IntConstraints.toEntries (c : IntConstraints) : Entries Document :=
  entry "valid_values" (ofList .int) c.validValues ++ entry "min" .int c.min ++
    entry "max" .int c.max

def BoolConstraints.toEntries (c : BoolConstraints) : Entries Document :=
  entry "valid_values" (ofList .bool) c.validValues

def ListConstraints.toEntries (c : ListConstraints) : Entries Document :=
  entry "primary_key" .string c.primaryKey ++ entry "min_length" ofLength c.minLength
    ++ entry "max_length" ofLength c.maxLength

namespace Node

mutual

/-- Writes a node: its attributes, its type, the fields of its kind. Fields that
are not set are left out. -/
def toDocument : Node → Document
  | .str a c => .object (a.toEntries ++ ("type", ofKind .str) :: c.toEntries)
  | .int a c => .object (a.toEntries ++ ("type", ofKind .int) :: c.toEntries)
  | .bool a c => .object (a.toEntries ++ ("type", ofKind .bool) :: c.toEntries)
  | .dict a keys dynamicKeys other =>
    .object (a.toEntries ++ ("type", ofKind .dict) ::
      (keysEntry keys ++ nodeEntry "dynamic_keys" dynamicKeys)
      ++ entry "allow_other_keys" .bool other)
  | .list a items c =>
    .object (a.toEntries ++ ("type", ofKind .list) :: nodeEntry "items" items ++ c.toEntries)

def nodeEntry (name : String) : Option Node → Entries Document
  | none => []
  | some node => [(name, node.toDocument)]

def keysEntry : Option (List (String × Node)) → Entries Document
  | none => []
  | some keys => [("keys", .object (keyDocuments keys))]

def keyDocuments : List (String × Node) → Entries Document
  | [] => []
  | (key, node) :: rest => (key, node.toDocument) :: keyDocuments rest

end

/-- The text of a node as a document. -/
def text (node : Node) : String := node.toDocument.compact

end Node

end DataSchema
