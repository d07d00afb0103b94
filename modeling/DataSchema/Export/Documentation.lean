import DataSchema.Document.Compact
import DataSchema.Node.Basic
import DataSchema.Text.Blank

/-!
# Documentation tables

The variables that a node describes, one row each, nesting shown by indentation. The first key of a
list of dicts carries the mark of an element; it is the primary key when there is one. The rows are
rendered as a Markdown table.
-/

namespace DataSchema

structure DocumentationRow where
  /-- The indented name, with a mark on the first key of an element. -/
  name : String
  path : String
  kind : String
  required : String
  fallback : String
  restrictions : List String
  description : String
deriving DecidableEq

namespace Documentation

/-- The words for the type of a node. -/
def typeName : Node → String
  | .str .. => "String"
  | .int .. => "Integer"
  | .bool .. => "Boolean"
  | .dict .. => "Dictionary"
  | .list _ (some items) _ => "List, items: " ++ typeName items
  | .list _ none _ => "List"

def labelled {α : Type} (label : String) (write : α → String) (value : Option α) : List String :=
  match value with
  | some value => [label ++ ": " ++ write value]
  | none => []

def restrictions : Node → List String
  | .str _ c =>
    labelled "Min Length" toString c.minLength ++ labelled "Max Length" toString c.maxLength
      ++ labelled "Format" id c.format ++ labelled "Pattern" id c.pattern
      ++ labelled "Valid Values" (", ".intercalate ·) c.validValues
  | .int _ c =>
    labelled "Min" toString c.min ++ labelled "Max" toString c.max
      ++ labelled "Valid Values" (fun values => ", ".intercalate (values.map toString))
        c.validValues
  | .bool _ c =>
    labelled "Valid Values" (fun values => ", ".intercalate (values.map toString)) c.validValues
  | .list _ _ c =>
    labelled "Min Length" toString c.minLength ++ labelled "Max Length" toString c.maxLength
  | .dict .. => []

/-- The bare text of a string, and the compact text of everything else. -/
def plain : Document → String
  | .string text => text
  | value => value.compact

/-- The mark of a row: none, the first key of an element, or its primary key. -/
inductive Mark where
  | none | first | unique
deriving DecidableEq

def requiredText (node : Node) (mark : Mark) : String :=
  if mark = .unique then "Required, Unique" else if node.isRequired then "Required" else ""

def row (node : Node) (depth : Nat) (mark : Mark) (name path : String) : DocumentationRow where
  name :=
    String.ofList (List.replicate (2 * depth) ' ') ++ (if mark = .none then "" else "- ") ++ name
  path := path
  kind := typeName node
  required := requiredText node mark
  fallback := (node.attributes.fallback.map plain).getD ""
  restrictions := restrictions node
  description := node.attributes.description.getD ""

/-- The entries with the given key and then all others. -/
def keyFirst {α : Type} (key : String) (entries : Entries α) : Entries α :=
  (entries.filter fun entry => entry.1 == key) ++ entries.filter fun entry => entry.1 != key

/-- The rows of an element's keys, of which the first is marked. -/
def elementRows (primaryKey : Option String) (depth : Nat) :
    Entries (Nat → Mark → List DocumentationRow) → List DocumentationRow
  | [] => []
  | (key, rows) :: rest =>
    rows (depth + 1) (if primaryKey = some key then .unique else .first) ++
      rest.flatMap fun entry => entry.2 (depth + 2) .none

mutual

/-- The row of a node and those of everything below it. -/
def rows (name path : String) (depth : Nat) (mark : Mark) : Node → List DocumentationRow
  | .dict a keys dynamicKeys other =>
    row (.dict a keys dynamicKeys other) depth mark name path
      :: ((match keys with
            | some keys => dictRows (path ++ ".") (depth + 1) keys
            | none => [])
        ++ match dynamicKeys with
          | some node => rows "<key>" (path ++ ".<key>") (depth + 1) .none node
          | none => [])
  | .list a items c =>
    row (.list a items c) depth mark name path :: match items with
      | none => []
      | some item => match item with
        | .dict _ (some keys) _ _ =>
          elementRows c.primaryKey depth (match c.primaryKey with
            | some key => keyFirst key (keyTables (path ++ ".[].") keys)
            | none => keyTables (path ++ ".[].") keys)
        | item => rows "<item>" (path ++ ".[]") (depth + 1) .first item
  | node => [row node depth mark name path]

/-- The rows of the static keys of a dict. -/
def dictRows (before : String) (depth : Nat) : List (String × Node) → List DocumentationRow
  | [] => []
  | (key, node) :: rest => rows key (before ++ key) depth .none node ++ dictRows before depth rest

/-- The rows of the keys of an element, which still wait for their depth and mark. -/
def keyTables (before : String) :
    List (String × Node) → Entries (Nat → Mark → List DocumentationRow)
  | [] => []
  | (key, node) :: rest =>
    (key, fun depth mark => rows key (before ++ key) depth mark node) :: keyTables before rest

end

/-- The rows for everything below a dict; any other node is documented under the given name. -/
def ofNode (name : String) : Node → List DocumentationRow
  | .dict _ keys dynamicKeys _ =>
    dictRows "" 0 (keys.getD []) ++ (match dynamicKeys with
      | some node => rows "<key>" "<key>" 0 .none node
      | none => [])
  | node => rows name name 0 .none node

/-- A cell cannot hold a bare bar or a line break. -/
def escape (cell : String) : String :=
  String.ofList (cell.toList.flatMap fun c => if c = '|' then ['\\', '|'] else if c = '\n' then
    [' '] else [c])

/-- The name with one nonbreaking space for each byte of its indentation. -/
def indented (name : String) : String :=
  let leading := name.toList.takeWhile Text.isBlank
  let rest := name.toList.dropWhile Text.isBlank
  String.join (List.replicate (String.ofList leading).utf8ByteSize "&nbsp;") ++ String.ofList rest

def line (row : DocumentationRow) : String :=
  "| [<samp>" ++ escape (indented row.name) ++ "</samp>](## \"" ++ row.path ++ "\") | " ++
    row.kind ++ " | " ++ row.required
    ++ " | " ++ escape row.fallback ++ " | " ++ escape ("<br>".intercalate row.restrictions) ++
      " | "
    ++ escape row.description ++ " |\n"

def markdown (rows : List DocumentationRow) : String :=
  "| Variable | Type | Required | Default | Value Restrictions | Description |\n"
    ++ "| -------- | ---- | -------- | ------- | ------------------ | ----------- |\n"
    ++ String.join (rows.map line)

end Documentation

end DataSchema
