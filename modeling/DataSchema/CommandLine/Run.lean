import DataSchema.CommandLine.Arguments
import DataSchema.Settings.Layers
import DataSchema.Yaml.Writer

/-!
# Running commands

A command reads the settings, works on files and prints. What it has printed stays printed when it
fails later on. The exit code is 0 after a success, 1 after a failure, of which the last words tell,
and 2 when the command line cannot be read.
-/

namespace DataSchema

/-- Why a command fails. -/
inductive Failure where
  | settings
  | schema (error : SchemaError)
  /-- The schema in a file, which is named, cannot be loaded. -/
  | loading (path : String) (error : SchemaError)
  | merge (error : MergeError)
  | invalid (failed total : Nat)
  | present (path : String)
  | writing (fault : FileFault)
deriving DecidableEq

namespace Failure

/-- The message of an error and those of its causes; a file that cannot be read is its own cause. -/
def causes (error : SchemaError) : String :=
  match error with
  | .file fault => error.message ++ ": " ++ fault.message
  | _ => error.message

def message : Failure → String
  | .settings => "loading configuration: the configuration cannot be read"
  | .schema error => causes error
  | .loading path error => s!"loading {path}: {causes error}"
  | .merge error => error.message
  | .invalid failed total => s!"{failed} of {total} files failed validation"
  | .present path => s!"{path} already exists"
  | .writing fault => fault.message

end Failure

/-- How a run of the program ended, and what it printed. -/
structure Outcome where
  exitCode : Nat
  output : String
  errors : String
deriving DecidableEq

/-- A part of a run: it prints and may fail. -/
abbrev Job (m : Type → Type) := ExceptT Failure (StateT String m)

namespace Job

variable {m : Type → Type} [Monad m]

def print (text : String) : Job m Unit := modify (· ++ text)

/-- Does something with files. -/
def act {α : Type} (action : m α) : Job m α := ExceptT.lift (StateT.lift action)

def settle {α ε : Type} (failure : ε → Failure) : Except ε α → Job m α
  | .ok value => pure value
  | .error error => throw (failure error)

/-- Runs a job to its end. -/
def finish (job : Job m Unit) : m Outcome := do
  let (result, output) ← (job.run).run ""
  match result with
  | .ok () => return ⟨0, output, ""⟩
  | .error failure => return ⟨1, output, s!"Error: {failure.message}\n"⟩

end Job

namespace Command

open Job

variable {m : Type → Type} [Monad m]

/-- The host that a data file belongs to. -/
def hostOf (path : String) : String := (FileName.stem? path).getD "unknown"

def loader (files : FileAccess m) (settings : Settings) : Job m Loader := do
  settle .schema (← act (settings.loader files))

def loadSchema (files : FileAccess m) (settings : Settings) (path : String) : Job m Schema := do
  let loader ← loader files settings
  settle .schema (← act (loader.loadFile files path))

def readData (files : FileAccess m) (path : String) : Job m Document := do
  settle .schema (← act (files.document path))

def runCheck (files : FileAccess m) (settings : Settings) (path : String) : Job m Unit := do
  let loader ← loader files settings
  let schema ← settle (.loading path) (← act (loader.loadFile files path))
  print s!"✅ {path} is a valid schema\n"
  print s!"   fingerprint: {schema.fingerprint.hex}\n"
  print s!"   store entries: {loader.store.size}\n"

/-- What is printed about a data file. -/
def verdict (path : String) (report : Report) : String :=
  if report.isClean && !report.failed then s!"✅ {path}\n"
  else
    s!"❌ {path} - {report.findings.length} errors\n"
      ++ String.join (report.findings.map fun finding =>
        s!"   └─ [{finding.problem.category.label}] {finding.text}\n")

/-- Validates data files one after the other and counts those that fail. -/
def validateFiles (files : FileAccess m) (settings : Settings) (schema : Schema) :
    List String → Job m Nat
  | [] => return 0
  | path :: rest => do
    let data ← readData files path
    let (_, report, _) := (settings.hostCheck schema (hostOf path)).convertAndValidate data
    print (verdict path report)
    let others ← validateFiles files settings schema rest
    return if report.isClean && !report.failed then others else others + 1

def runValidate (files : FileAccess m) (settings : Settings) (path : String) (data : List String) :
    Job m Unit := do
  let schema ← loadSchema files settings path
  let failed ← validateFiles files settings schema data
  if failed > 0 then throw (.invalid failed data.length)

def runMerge (files : FileAccess m) (settings : Settings) (path : String) (data : List String)
    (strategy : Option ListStrategy) : Job m Unit := do
  let schema ← loadSchema files settings path
  let documents ← data.mapM (readData files)
  let options := { settings.mergeOptions with strategy := strategy.getD settings.listStrategy }
  let merged ← settle .merge (Document.mergeAll options (some schema.root) documents)
  print merged.yaml

/-- The name of the node at a path with points: what follows the last point. -/
def nodeName (path : String) : String :=
  String.ofList ((Text.pieces '.' path.toList).getLast?.getD [])

def runExport (files : FileAccess m) (settings : Settings) (path : String) (format : ExportFormat)
    (at? : Option String) : Job m Unit := do
  let schema ← loadSchema files settings path
  let (name, node) ← match at? with
    | some steps => do
      let node ← settle .schema (schema.subschema (Schema.dottedSteps steps))
      pure (nodeName steps, node)
    | none => pure ("root", schema.root)
  print (format.render name node ++ "\n")

def runWriteSettings (files : FileAccess m) (output : String) : Job m Unit := do
  if ← act (files.isPresent output) then throw (.present output)
  settle .writing (← act (files.write output Settings.standard.toml))
  print s!"✅ Wrote {output}\n"

def run (files : FileAccess m) (settings : Settings) : Command → Job m Unit
  | .check schema => runCheck files settings schema
  | .validate schema data => runValidate files settings schema data
  | .merge schema data strategy => runMerge files settings schema data strategy
  | .export schema format path => runExport files settings schema format path
  | .showSettings => print settings.toml
  | .writeSettings output => runWriteSettings files output

end Command

namespace CommandLine

variable {m : Type → Type} [Monad m]

/-- Reads the settings and runs the command. -/
def run (files : FileAccess m) (userFile : Option String) (environment : Entries String)
    (line : CommandLine) : m Outcome := do
  match ← Settings.load files ⟨userFile, line.settings, environment⟩ with
  | some settings => (line.command.run files settings).finish
  | none => Job.finish (throw .settings)

/-- Runs the program with arguments. -/
def runArguments (files : FileAccess m) (userFile : Option String) (environment : Entries String)
    (arguments : List String) :
    m Outcome :=
  match ofArguments? arguments with
  | some line => line.run files userFile environment
  | none => return ⟨2, "", usage⟩

end CommandLine

end DataSchema
