import DataSchema.Error
import DataSchema.Node.Written
import DataSchema.Validation.Basic

/-!
# The schema of schemas

The dialect is described in its own terms: for every kind there is a dict node that lists the fields
a node of this kind may carry. A document is checked by validating each of its nodes, seen as an
instance, against the description of its kind, and by going on into `keys`, `dynamic_keys` and
`items`. References are not followed. A document without violations is a legal schema.
-/

namespace DataSchema

namespace MetaSchema

def typed (type : String) (more : Entries Document) : Document :=
  .object (("type", .string type) :: more)

def flag : Document := typed "bool" []

def text : Document := typed "str" []

def anyDict : Document := typed "dict" [("allow_other_keys", .bool true)]

def length : Document := typed "int" [("min", .int 0)]

def texts (values : List String) : Document := .array (values.map .string)

def listOf (items : Document) : Document := typed "list" [("items", items)]

/-- The form of a reference: a nonempty entry name, `#`, and a path. -/
def referencePattern : String := "^[^#]+#.*$"

def reference : Document := typed "str" [("pattern", .string referencePattern)]

def typeField (names : List String) : Document :=
  typed "str" [("required", .bool true), ("valid_values", texts names)]

def sourceKinds (names : List String) : Document :=
  listOf (typed "str" [("valid_values", texts names)])

/-- The description of a kind: its name, the names of its type, the form of references, defaults,
and the fields of the kind. -/
def description (kind : Kind) (names : List String) (reference fallback : Document)
    (fields : Entries Document) : Document :=
  typed "dict" [
    ("description", .string s!"Schema node of kind '{kind.name}'"),
    ("keys", .object ([
      ("type", typeField names),
      ("$ref", reference),
      ("required", flag),
      ("description", text),
      ("display_name", text),
      ("default", fallback)] ++ fields))]

/-- What a schema node of the given kind looks like. -/
def kindDocument : Kind → Document
  | .str => description .str ["str", "string"]
      (typed "str" [("pattern", .string referencePattern),
        ("description", .string "Reference to a store fragment, '<entry>#<path>'")])
      text [
      ("valid_values", listOf text),
      ("min_length", length),
      ("max_length", length),
      ("pattern", text),
      ("format", text),
      ("convert_types", sourceKinds ["int", "integer", "bool", "boolean"]),
      ("convert_to_lower_case", flag)]
  | .int => description .int ["int", "integer"] reference (typed "int" []) [
      ("valid_values", listOf (typed "int" [])),
      ("min", typed "int" []),
      ("max", typed "int" []),
      ("convert_types", sourceKinds ["str", "string"])]
  | .bool => description .bool ["bool", "boolean"] reference flag [
      ("valid_values", listOf flag),
      ("convert_types", sourceKinds ["str", "string"])]
  | .dict => description .dict ["dict"] reference anyDict [
      ("keys", typed "dict" [("dynamic_keys", anyDict)]),
      ("dynamic_keys", anyDict),
      ("allow_other_keys", flag)]
  | .list => description .list ["list"] reference (typed "list" []) [
      ("items", anyDict),
      ("primary_key", typed "str" [("min_length", .int 1)]),
      ("min_length", length),
      ("max_length", length)]

/-- The whole description, by kind. -/
def document : Document := .object (Kind.all.map fun kind => (kind.name, kindDocument kind))

/-- The node that governs schema nodes of the given kind. -/
def node (kind : Kind) : Node :=
  (Node.ofDocument? (kindDocument kind)).getD (.dict .empty none none none)

/-- Schema nodes are validated with the formats of network configuration and the standard limit; the
only pattern is that of references. -/
def rules : Rules where
  patterns := match Pattern.ofSource? referencePattern with
    | some pattern => [(referencePattern, pattern)]
    | none => []
  formats := Formats.builtin
  maxDepth := defaultMaxDepth

/-- The violations of the fields of one node. -/
def fieldViolations (path : Path) (kind : Kind) (document : Document) : List SchemaError :=
  ((node kind).findings rules 0 none document).map fun finding =>
    .violation (path ++ finding.path) (.field finding.problem)

mutual

/-- What keeps a document from being a legal schema node at a path and depth. -/
def violations (maxDepth depth : Nat) (path : Path) : Document → List SchemaError
  | .object entries =>
    if depth > maxDepth then [.depthExceeded path maxDepth]
    else match entries.lookup "type" with
      | none => [.violation (path.join (.key "type")) .missingType]
      | some (.string name) =>
        match Kind.ofName? name with
        | none => [.violation (path.join (.key "type")) (.unknownType name)]
        | some kind => fieldViolations path kind (.object entries) ++ match kind with
          | .dict => keysViolations maxDepth (depth + 1) path entries
              ++ nodeViolations maxDepth (depth + 1) path "dynamic_keys" entries
          | .list => nodeViolations maxDepth (depth + 1) path "items" entries
          | _ => []
      | some other => [.violation (path.join (.key "type")) (.typeNotText other.shape)]
  | document =>
    if depth > maxDepth then [.depthExceeded path maxDepth]
    else [.violation path (.notADict document.shape)]

/-- The violations of the node in the named field, if the field holds an object. -/
def nodeViolations (maxDepth depth : Nat) (path : Path) (name : String) :
    List (String × Document) → List SchemaError
  | [] => []
  | (key, value) :: rest =>
    if name == key then
      match value with
      | .object entries => violations maxDepth depth (path.join (.key name)) (.object entries)
      | _ => []
    else nodeViolations maxDepth depth path name rest

/-- The violations of the nodes in the field `keys`. -/
def keysViolations (maxDepth depth : Nat) (path : Path) :
    List (String × Document) → List SchemaError
  | [] => []
  | (key, value) :: rest =>
    if "keys" == key then
      match value with
      | .object entries => childViolations maxDepth depth (path.join (.key "keys")) entries
      | _ => []
    else keysViolations maxDepth depth path rest

/-- The violations of those values of an object that are objects. -/
def childViolations (maxDepth depth : Nat) (path : Path) :
    List (String × Document) → List SchemaError
  | [] => []
  | (key, value) :: rest =>
    (match value with
      | .object entries => violations maxDepth depth (path.join (.key key)) (.object entries)
      | _ => [])
    ++ childViolations maxDepth depth path rest

end

/-- All violations of a schema document. -/
def check (maxDepth : Nat) (document : Document) : List SchemaError :=
  violations maxDepth 0 [] document

/-- Fails with the first violation of a schema document. -/
def ensure (maxDepth : Nat) (document : Document) : Except SchemaError Unit :=
  match check maxDepth document with
  | [] => .ok ()
  | error :: _ => .error error

end MetaSchema

end DataSchema
