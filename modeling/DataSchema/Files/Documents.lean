import DataSchema.Document.Json
import DataSchema.Files.Access
import DataSchema.Files.Name
import DataSchema.Schema
import DataSchema.Yaml.Reader

/-!
# Documents in files

A file whose extension is `json` holds JSON, every other file YAML. A store takes schemas from
single files and from directories; a schema is named after its file, without extension and without
the endings `.schema` before it.
-/

namespace DataSchema

/-- How many containers may be open at once in a JSON file. -/
def maxFileNesting : Nat := 127

/-- The document in the text of a file. -/
def Document.ofFile (path text : String) : Except SchemaError Document :=
  if FileName.extension? path = some "json" then
    match Document.ofJsonWithin? maxFileNesting text with
    | some document => .ok document
    | none => .error .json
  else
    match Document.ofYaml? text with
    | some document => .ok document
    | none => .error .yaml

variable {m : Type → Type} [Monad m]

def FileAccess.document (files : FileAccess m) (path : String) :
    m (Except SchemaError Document) := do
  match ← files.read path with
  | .ok text => return Document.ofFile path text
  | .error fault => return .error (.file fault)

namespace Store

/-- The name that the schema in a file gets. -/
def nameOfFile (path : String) : String :=
  String.ofList (Text.dropEndings ".schema".toList ((FileName.stem? path).getD "").toList)

/-- Whether a file in a directory is taken for a schema. -/
def holdsSchema (path : String) : Bool :=
  match FileName.extension? path with
  | some extension => ["json", "yml", "yaml"].contains extension
  | none => false

/-- Adds the schema in a file. -/
def addFile (files : FileAccess m) (store : Store) (path : String) :
    m (Except SchemaError Store) := do
  match ← files.document path with
  | .ok document => return store.insert (nameOfFile path) document
  | .error error => return .error error

/-- Adds the schemas in files up to the first one that cannot be added. -/
def addFiles (files : FileAccess m) (store : Store) :
    List String → m (Store × Except SchemaError Unit)
  | [] => return (store, .ok ())
  | path :: rest => do
    match ← store.addFile files path with
    | .ok store => addFiles files store rest
    | .error error => return (store, .error error)

/-- Adds the schemas below a directory, which need not exist. -/
def addDirectory (files : FileAccess m) (store : Store) (directory : String) :
    m (Store × Except SchemaError Unit) := do
  let paths ← files.filesBelow directory
  store.addFiles files (paths.filter holdsSchema)

/-- Adds the schemas below several directories. -/
def addDirectories (files : FileAccess m) (store : Store) :
    List String → m (Except SchemaError Store)
  | [] => return .ok store
  | directory :: rest => do
    match ← store.addDirectory files directory with
    | (store, .ok ()) => addDirectories files store rest
    | (_, .error error) => return .error error

end Store

/-- Loads the schema in a file. -/
def Loader.loadFile (files : FileAccess m) (loader : Loader) (path : String) :
    m (Except SchemaError Schema) := do
  match ← files.document path with
  | .ok document => return loader.load document
  | .error error => return .error error

end DataSchema
