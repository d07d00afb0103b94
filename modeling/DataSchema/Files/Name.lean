import DataSchema.Text.Split

/-!
# Names of files

The name of a file is the last part of its path. A point in it that is not its first character may
separate a stem from an extension; of several the last one does.
-/

namespace DataSchema.FileName

/-- The name at the end of a path; a path that ends with `..` has none. -/
def ofPath? (path : String) : Option String :=
  let parts := (Text.steps '/' path.toList).filter (· != ".")
  parts.getLast?.filter (· != "..")

/-- Stem and extension of a name. -/
def split (name : String) : String × Option String :=
  match Text.splitOnce? '.' name.toList.reverse with
  | some (extension, stem) =>
    if stem.isEmpty then (name, none)
    else (String.ofList stem.reverse, some (String.ofList extension.reverse))
  | none => (name, none)

def stem? (path : String) : Option String := (ofPath? path).map fun name => (split name).1

def extension? (path : String) : Option String := (ofPath? path).bind fun name => (split name).2

end DataSchema.FileName
