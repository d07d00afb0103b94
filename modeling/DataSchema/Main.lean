import DataSchema.CommandLine.Run
import DataSchema.Files.Tree

/-!
# The program

Gives the commands the files, the environment and the standard streams of the machine.
-/

namespace DataSchema.Main

/-- The number of a system error; some calls report it negated. -/
def numberOf (code : UInt32) : Nat :=
  if code.toNat < 0x80000000 then code.toNat else 0x100000000 - code.toNat

/-- The fault that an error of the system stands for. -/
def faultOf (error : IO.Error) : FileFault :=
  match error with
  | .noFileOrDirectory .. => .notFound
  | .inappropriateType _ code _ =>
    match numberOf code with
    | 20 => .notADirectory
    | 21 => .isDirectory
    | _ => .other (toString error)
  | error => .other (toString error)

def readText (path : String) : IO (Except FileFault String) := do
  match ← (IO.FS.readBinFile path).toBaseIO with
  | .ok bytes => return (String.fromUTF8? bytes).elim (.error .notText) .ok
  | .error error => return .error (faultOf error)

def writeText (path text : String) : IO (Except FileFault Unit) := do
  match ← (IO.FS.writeFile path text).toBaseIO with
  | .ok () => return .ok ()
  | .error error => return .error (faultOf error)

def isPresent (path : String) : IO Bool := do
  match ← (IO.FS.realPath path).toBaseIO with
  | .ok _ => return true
  | .error _ => return false

def isDirectory (path : String) : IO Bool := do
  match ← (IO.FS.realPath path).toBaseIO with
  | .ok place => place.isDir
  | .error _ => return false

/-- Whether a path leads to a file. -/
def isFile (path : String) : IO Bool := do return (← isPresent path) && !(← isDirectory path)

/-- The names in a directory, in order. -/
def namesIn (path : String) : IO (List String) := do
  match ← (IO.FS.realPath path >>= (·.readDir)).toBaseIO with
  | .ok entries => return Text.sorted (entries.toList.map (·.fileName))
  | .error _ => return []

/-- The files below a path. Directories behind symbolic links are left
out, so that the walk ends. -/
partial def filesBelow (path : String) : IO (List String) := do
  if ← isDirectory path then
    let place ← IO.FS.realPath path
    let names ← namesIn path
    let below ← names.mapM fun name => do
      let child := FileTree.below path [name]
      match ← (IO.FS.realPath child).toBaseIO with
      | .ok target =>
        if ← target.isDir then
          if target == place / name then filesBelow child else return []
        else return [child]
      | .error _ => return []
    return below.flatten
  else if ← isPresent path then return [path]
  else return []

def files : FileAccess IO := ⟨readText, writeText, isPresent, isFile, filesBelow⟩

/-- The variables of the environment. -/
def environment : IO (Entries String) := do
  match ← (IO.FS.readBinFile "/proc/self/environ").toBaseIO with
  | .ok bytes =>
    let texts := Text.pieces '\x00' ((String.fromUTF8? bytes).getD "").toList
    return texts.filterMap fun text => (Text.splitOnce? '=' text).map fun (name, value) =>
      (String.ofList name, String.ofList value)
  | .error _ => return []

/-- The settings file of the user. -/
def userFile : IO (Option String) := do
  let name := "/fabric-schema/fabric-schema.toml"
  match ← IO.getEnv "XDG_CONFIG_HOME", ← IO.getEnv "HOME" with
  | some home, fallback =>
    if home.toList.head? = some '/' then return some (home ++ name)
    else return fallback.map (· ++ "/.config" ++ name)
  | none, home => return home.map (· ++ "/.config" ++ name)

end DataSchema.Main

def main (arguments : List String) : IO UInt32 := do
  let environment ← DataSchema.Main.environment
  let userFile ← DataSchema.Main.userFile
  let outcome ← DataSchema.CommandLine.runArguments DataSchema.Main.files userFile
    environment arguments
  IO.print outcome.output
  IO.eprint outcome.errors
  return outcome.exitCode.toUInt32
