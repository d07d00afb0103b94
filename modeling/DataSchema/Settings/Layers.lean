import DataSchema.Document.Json
import DataSchema.Files.Documents
import DataSchema.Settings.Basic
import DataSchema.Toml.Reader

/-!
# Where settings come from

Settings are laid over each other key by key, the later ones over the earlier ones: those of the
standard files, of the user's file, of a file that is asked for, and of environment variables. Keys
are the same in upper and lower case. A key at the top may be a path with points.
-/

namespace DataSchema

namespace Settings

/-! ### Layers -/

mutual

/-- Lays the value of a key, which is the last argument, over the one it had; tables are laid
over each other key by key. -/
def laidOver (base : Document) : Document → Document
  | .object entries => entriesOver base entries
  | value => value

/-- Lays entries over a table; anything else that they are laid over makes place for a table. -/
def entriesOver (base : Document) : List (String × Document) → Document
  | [] => base
  | (name, value) :: rest =>
    let entries : Entries Document := match base with
      | .object entries => entries
      | _ => []
    let key := Text.lowercase name
    entriesOver
      (.object (entries.insert key (laidOver ((entries.lookup key).getD (.object [])) value))) rest

end

def isKeyChar (c : Char) : Bool := c.isAlphanum || c = '_' || c = '-' || c = ' '

/-- The keys of a path with points. A text that is no path is a key itself. -/
def keysOf (text : String) : List String :=
  let parts := Text.pieces '.' text.toList
  if parts.all fun part => !part.isEmpty && part.all isKeyChar then
    parts.map String.ofList else [text]

/-- The table with one value at a path. -/
def tableAt (value : Document) : List String → Document
  | [] => value
  | key :: path => .object [(key, tableAt value path)]

/-- A table whose keys at the top may be paths, laid over another. -/
def withLayer (base : Document) (layer : Entries Document) : Document :=
  layer.foldl (fun base (name, value) => laidOver base (tableAt value (keysOf name))) base

/-! ### Environment variables -/

/-- How the names of variables begin that hold settings. -/
def variableBeginning : String := "fabric_schema__"

/-- The value of a variable: a boolean, a number or text. -/
def variableValue (text : String) : Document :=
  let integer := match text.toList with
    | '-' :: digits =>
      if Text.isDigits digits then some (-(Text.naturalValue digits : Int)) else none
    | digits => (Text.unsigned? digits).map Int.ofNat
  if Text.lowercase text == "true" then .bool true
  else if Text.lowercase text == "false" then .bool false
  else match integer.filter isSignedWord, Text.float? text.toList with
    | some i, _ => .int i
    | none, some x => .float x
    | none, none => .string text

/-- Every pair of underscores, from the left, becomes a point. -/
def pointed : List Char → List Char
  | '_' :: '_' :: rest => '.' :: pointed rest
  | c :: rest => c :: pointed rest
  | [] => []

/-- The settings in environment variables; their names are the same in upper and lower case. -/
def ofEnvironment (environment : Entries String) : Entries Document :=
  environment.filterMap fun (name, value) =>
    let name := (Text.lowercase name).toList
    let beginning := variableBeginning.toList
    if beginning.isPrefixOf name then some (String.ofList (pointed (name.drop beginning.length)),
      variableValue value) else none

/-! ### Files -/

/-- The files that are looked for in the working directory. -/
def standardFiles : List String :=
  ["fabric-schema.toml", ".fabric-schema.toml", "config/fabric-schema.toml"]

/-- The extensions of settings files. -/
def extensions : List String := ["toml", "json", "yaml", "yml"]

/-- The table in the text of a settings file. A file of another form, or that does not hold a
table, is no settings file. -/
def tableOfFile? (path text : String) : Option (Entries Document) := do
  let document ← match FileName.extension? path with
    | some "toml" => Document.ofToml? text
    | some "json" => Document.ofJsonWithin? maxFileNesting text
    | some "yaml" | some "yml" => Document.ofYaml? text
    | _ => none
  match document with
  | .object entries => some entries
  | _ => none

variable {m : Type → Type} [Monad m]

/-- The path of a settings file whose extension may be left out. -/
def findFile (files : FileAccess m) (path : String) : m (Option String) := do
  if ← files.isFile path then
    return if (FileName.extension? path).any extensions.contains then some path else none
  else
    let candidates := extensions.map fun extension => path ++ "." ++ extension
    let found ← candidates.filterM files.isFile
    return found.head?

/-- Lays the settings in a file over others; nothing when the file has to be there and is not, or
when it is no settings file. -/
def overFile (files : FileAccess m) (required : Bool) (base : Option Document) (path : String) :
    m (Option Document) := do
  match base, ← findFile files path with
  | none, _ => return none
  | some base, none => return if required then none else some base
  | some base, some path =>
    match ← files.read path with
    | .ok text => return (tableOfFile? path text).map (withLayer base)
    | .error _ => return if required then none else some base

/-- What settings may depend on besides the files of the working directory. -/
structure Sources where
  /-- The settings file of the user. -/
  userFile : Option String
  /-- The settings file that is asked for. -/
  askedFile : Option String
  environment : Entries String

/-- The settings of all sources; nothing when one of them cannot be read. -/
def load (files : FileAccess m) (sources : Sources) : m (Option Settings) := do
  let base ← standardFiles.foldlM (overFile files false) (some (.object []))
  let withUser ← match sources.userFile with
    | some path => if ← files.isPresent path then overFile files false base path else pure base
    | none => pure base
  let withAsked ← match sources.askedFile with
    | some path => overFile files true withUser path
    | none => pure withUser
  return withAsked.bind fun root => ofDocument? (withLayer root (ofEnvironment sources.environment))

/-- A loader with the store that the settings name. -/
def loader (files : FileAccess m) (settings : Settings) : m (Except SchemaError Loader) := do
  match ← (Store.empty.withMaxDepth settings.maxDepth).addDirectories files settings.storePaths with
  | .ok store => return .ok { Loader.standard with store := store, maxDepth := settings.maxDepth }
  | .error error => return .error error

end Settings

end DataSchema
