import DataSchema.Error

/-!
# Access to files

What the program needs of a file system, over any monad: a file is read and written as text, and a
directory gives the files below it. `FileTree` is a file system held in memory.
-/

namespace DataSchema

structure FileAccess (m : Type → Type) where
  /-- The text of a file. -/
  read : String → m (Except FileFault String)
  /-- Replaces or makes a file. -/
  write : String → String → m (Except FileFault Unit)
  /-- Whether there is anything at a path. -/
  isPresent : String → m Bool
  /-- Whether a path leads to a file. -/
  isFile : String → m Bool
  /-- The paths of all files below a directory, in the order of the names on the way to them. A file
  is the only one below itself, and below nothing there are none. -/
  filesBelow : String → m (List String)

end DataSchema
