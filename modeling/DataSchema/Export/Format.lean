import DataSchema.Export.Documentation
import DataSchema.Export.Form
import DataSchema.Export.JsonSchema

/-!
# Export formats

A resolved node is rendered as a documentation table, as JSON Schema, or as form fields.
-/

namespace DataSchema

inductive ExportFormat where
  | documentation | jsonSchema | form
deriving DecidableEq, Repr

namespace ExportFormat

def name : ExportFormat → String
  | .documentation => "documentation"
  | .jsonSchema => "json-schema"
  | .form => "form"

def ofName? : String → Option ExportFormat
  | "documentation" => some .documentation
  | "json-schema" | "jsonschema" => some .jsonSchema
  | "form" => some .form
  | _ => none

/-- What is said about a name that is no format. -/
def unknownName (name : String) : String :=
  s!"unknown export format '{name}', expected one of documentation, json-schema, form"

/-- The text of a node, named `name`, in a format. -/
def render (format : ExportFormat) (name : String) (node : Node) : String :=
  match format with
  | .documentation => Documentation.markdown (Documentation.ofNode name node)
  | .jsonSchema => (JsonSchema.ofNode node).pretty
  | .form => (FormField.listDocument (FormField.ofNode name node)).pretty

end ExportFormat

end DataSchema
