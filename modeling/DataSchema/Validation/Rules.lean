import DataSchema.Formats
import DataSchema.Pattern.Reader

/-!
# The rules an instance is checked by

Besides the node, validation needs the patterns that were compiled for the schema, the registered
formats, and the nesting limit.
-/

namespace DataSchema

/-- Nesting is limited to this depth when nothing else is said. -/
def defaultMaxDepth : Nat := 128

/-- Compiled patterns by source. -/
abbrev Patterns := Entries Pattern

structure Rules where
  patterns : Patterns
  formats : Formats
  maxDepth : Nat

end DataSchema
