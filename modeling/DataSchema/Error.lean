import DataSchema.Node.Merge
import DataSchema.Validation.Problem

/-!
# Errors of schemas and merges

What stops a schema from being loaded, and what stops two documents from being merged. Problems of
instances are no errors; they are listed as findings. Errors are given by their causes, and
`message` holds their wording.
-/

namespace DataSchema

/-- Why a document is no schema. -/
inductive Violation where
  /-- A field of a node breaks the rules of its kind. -/
  | field (problem : Problem)
  | notADict (shape : Shape)
  | missingType
  | unknownType (name : String)
  | typeNotText (shape : Shape)
deriving DecidableEq

namespace Violation

def message : Violation → String
  | .field problem => problem.message
  | .notADict shape => s!"A schema node must be a dict, got '{shape.name}'"
  | .missingType => (Problem.missingKey "type").message
  | .unknownType name =>
    s!"Unknown type '{name}'. Expected one of {Text.shownList (Kind.all.map Kind.name)}"
  | .typeNotText shape => s!"Invalid type '{shape.name}'. Expected a 'str'"

end Violation

/-- Why a reference has no target. -/
inductive MissingTarget where
  | schema (name : String)
  | step (name step : String)
deriving DecidableEq

inductive ReferenceFault where
  | noSeparator
  | noName
  | notANode
deriving DecidableEq

/-- Where two kinds met: in the fields of two merged nodes, or at a reference. -/
inductive ConflictPlace where
  | fields (path : Path)
  | reference (reference : String) (path : Path)
deriving DecidableEq

/-- Why a file cannot be read. -/
inductive FileFault where
  | notFound
  | isDirectory
  | notADirectory
  | notText
  | other (message : String)
deriving DecidableEq

namespace FileFault

def message : FileFault → String
  | .notFound => "No such file or directory (os error 2)"
  | .isDirectory => "Is a directory (os error 21)"
  | .notADirectory => "Not a directory (os error 20)"
  | .notText => "stream did not contain valid UTF-8"
  | .other message => message

end FileFault

inductive SchemaError where
  | violation (path : Path) (cause : Violation)
  | referenceNotFound (reference : String) (target : MissingTarget)
  | malformedReference (reference : String) (fault : ReferenceFault)
  | kindConflict (place : ConflictPlace) (base overlay : Kind)
  | cyclicReference (chain : List String)
  | unknownFormat (path : Path) (format : String)
  | invalidPattern (path : Path) (pattern : String)
  | invalidPrimaryKey (path : Path) (key : String)
  | pathNotFound (steps : List String)
  | depthExceeded (path : Path) (limit : Nat)
  /-- A document does not have the form of a schema node, or a file does not hold JSON. -/
  | json
  /-- A file does not hold YAML. -/
  | yaml
  | file (fault : FileFault)
deriving DecidableEq

namespace SchemaError

def ofKindConflict (c : KindConflict) : SchemaError :=
  .kindConflict (.fields c.path) c.base c.overlay

def message : SchemaError → String
  | .violation path cause => s!"Invalid schema at {path.text}: {cause.message}"
  | .referenceNotFound reference (.schema name) =>
    s!"Reference not found: {reference} (no schema named '{name}' in the store)"
  | .referenceNotFound reference (.step name step) =>
    s!"Reference not found: {reference} ('{step}' does not exist in schema '{name}')"
  | .malformedReference reference .noSeparator => s!"Malformed reference '{reference}': missing '#'"
  | .malformedReference reference .noName =>
    s!"Malformed reference '{reference}': missing schema name before '#'"
  | .malformedReference reference .notANode =>
    s!"Malformed reference '{reference}': target is not a schema node"
  | .kindConflict (.fields path) base overlay =>
    s!"Type conflict at {path.text}: '{base.name}' cannot be overridden by '{overlay.name}'"
  | .kindConflict (.reference reference path) base overlay =>
    s!"Type conflict at $ref '{reference}' at {path.text}: '{base.name}' cannot be overridden by '{overlay.name}'"
  | .cyclicReference chain => "Cyclic reference: " ++ " -> ".intercalate chain
  | .unknownFormat path format => s!"Unknown format '{format}' at {path.text}"
  | .invalidPattern path pattern => s!"Invalid pattern '{pattern}' at {path.text}"
  | .invalidPrimaryKey path key =>
    s!"Primary key '{key}' at {path.text} is not a key of the list items"
  | .pathNotFound steps =>
    "The path '" ++ ".".intercalate steps ++ "' could not be found in the schema"
  | .depthExceeded path limit => s!"Maximum nesting depth {limit} exceeded at {path.text}"
  | .json => "JSON error"
  | .yaml => "YAML error"
  | .file fault => s!"IO error: {fault.message}"

end SchemaError

inductive MergeError where
  | structureMismatch (path : Path) (base overlay : Shape)
  | depthExceeded (path : Path) (limit : Nat)
deriving DecidableEq

namespace MergeError

def message : MergeError → String
  | .structureMismatch path base overlay =>
    s!"Cannot merge {overlay.name} onto {base.name} at {path.text}"
  | .depthExceeded path limit => s!"Maximum nesting depth {limit} exceeded at {path.text}"

/-- The error as seen from one step above. -/
def below (segment : Segment) : MergeError → MergeError
  | .structureMismatch path base overlay => .structureMismatch (segment :: path) base overlay
  | .depthExceeded path limit => .depthExceeded (segment :: path) limit

end MergeError

end DataSchema
