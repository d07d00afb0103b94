import DataSchema.Document.Basic
import DataSchema.Files.Access
import DataSchema.Text.Split

/-!
# Files in memory

A file tree lists files by the names on the way to them. A directory is there when a file lies below
it or when it is the working directory or one around it. Paths are relative to the working directory
unless they begin with a slash.
-/

namespace DataSchema

structure FileTree where
  workingDirectory : List String
  files : List (List String × String)

namespace FileTree

inductive Entry where
  | file (text : String)
  | directory

def entry? (tree : FileTree) (place : List String) : Option Entry :=
  match tree.files.lookup place with
  | some text => some (.file text)
  | none =>
    if place.isPrefixOf tree.workingDirectory || tree.files.any fun file => place.isPrefixOf file.1
      then some .directory else none

/-- Goes the parts of a path from a place, each part from a directory. -/
def follow (tree : FileTree) (place : List String) : List String → Except FileFault (List String)
  | [] => .ok place
  | part :: rest =>
    match tree.entry? place with
    | none => .error .notFound
    | some (.file _) => .error .notADirectory
    | some .directory =>
      if part = "" ∨ part = "." then follow tree place rest
      else if part = ".." then follow tree place.dropLast rest
      else follow tree (place ++ [part]) rest

/-- The place that a path leads to; there need not be anything. -/
def locate (tree : FileTree) (path : String) : Except FileFault (List String) :=
  if path.isEmpty then .error .notFound
  else
    let start := if path.toList.head? = some '/' then [] else tree.workingDirectory
    tree.follow start ((Text.pieces '/' path.toList).map String.ofList)

def find? (tree : FileTree) (path : String) : Option Entry :=
  match tree.locate path with
  | .ok place => tree.entry? place
  | .error _ => none

def read (tree : FileTree) (path : String) : Except FileFault String := do
  let place ← tree.locate path
  match tree.entry? place with
  | some (.file text) => return text
  | some .directory => throw .isDirectory
  | none => throw .notFound

def write (tree : FileTree) (path text : String) : Except FileFault FileTree := do
  let place ← tree.locate path
  match tree.entry? place with
  | some .directory => throw .isDirectory
  | _ => return { tree with files := (place, text) :: tree.files.filter (·.1 != place) }

/-- A path below a directory. -/
def below (directory : String) (parts : List String) : String :=
  if directory.toList.getLast? = some '/' then directory ++ Text.join "/" parts
  else directory ++ "/" ++ Text.join "/" parts

def filesBelow (tree : FileTree) (path : String) : List String :=
  match tree.locate path with
  | .error _ => []
  | .ok place =>
    match tree.entry? place with
    | none => []
    | some (.file _) => [path]
    | some .directory =>
      let parts := (tree.files.filter fun file => place.isPrefixOf file.1).map fun file =>
        file.1.drop place.length
      (parts.mergeSort fun a b => !(decide (b < a))).map (below path)

/-- A file tree as the state of a program. -/
def access : FileAccess (StateM FileTree) where
  read path := do return (← get).read path
  write path text := do
    match (← get).write path text with
    | .ok tree => do
      set tree
      return .ok ()
    | .error fault => return .error fault
  isPresent path := do return ((← get).find? path).isSome
  isFile path := do
    match (← get).find? path with
    | some (.file _) => return true
    | _ => return false
  filesBelow path := do return (← get).filesBelow path

end FileTree

end DataSchema
