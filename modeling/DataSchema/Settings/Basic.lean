import DataSchema.Merge
import DataSchema.Number.Shortest
import DataSchema.Report
import DataSchema.Text.LowerCase
import DataSchema.Text.Numeral
import DataSchema.Toml.Writer

/-!
# Settings

Where the schemas of the store are, how findings are reported, how lists are merged and how deep
documents may be nested. Settings are written as five tables and read from a document of that form:
what is not set has its standard value, what is not known is ignored, and a value that cannot be
taken for what is asked is an error. Numbers and booleans are taken for texts and texts for numbers
where possible, and a table may also be an array of its values.
-/

namespace DataSchema

structure Settings where
  storePaths : List String
  conversionMode : Mode
  validationMode : Mode
  listStrategy : ListStrategy
  maxDepth : Nat
deriving DecidableEq

namespace Settings

def standard : Settings := ⟨[], .debug, .warning, .append, defaultMaxDepth⟩

def mergeOptions (settings : Settings) : MergeOptions := ⟨settings.listStrategy, settings.maxDepth⟩

/-- Applies a schema to the document of a host in the modes that are set. -/
def hostCheck (settings : Settings) (schema : Schema) (host : String) : HostCheck :=
  { HostCheck.new schema host with
    conversionMode := settings.conversionMode, validationMode := settings.validationMode }

/-! ### Writing -/

def document (settings : Settings) : Document :=
  .object [
    ("store", .object [("paths", .array (settings.storePaths.map .string))]),
    ("conversion", .object [("mode", .string settings.conversionMode.name)]),
    ("validation", .object [("mode", .string settings.validationMode.name)]),
    ("merge", .object [("list_strategy", .string settings.listStrategy.name)]),
    ("limits", .object [("max_depth", .int settings.maxDepth)])]

def toml (settings : Settings) : String :=
  Toml.tables [
    Toml.table "store" [("paths", Toml.quotedArray settings.storePaths)],
    Toml.table "conversion" [("mode", Toml.quoted settings.conversionMode.name)],
    Toml.table "validation" [("mode", Toml.quoted settings.validationMode.name)],
    Toml.table "merge" [("list_strategy", Toml.quoted settings.listStrategy.name)],
    Toml.table "limits" [("max_depth", toString settings.maxDepth)]]

/-! ### Reading -/

/-- The value of the only setting of a table, found by its key or, in an
array, in the first place. -/
def valueIn? (table : Option Document) (key : String) : Option (Option Document) :=
  match table with
  | none => some none
  | some (.object entries) => some (entries.lookup key)
  | some (.array elements) => some elements.head?
  | some _ => none

/-- Reads a setting: nothing when its value or its table is of no use, and the standard
value when it is not set. -/
def read? {α : Type} (root : Document) (table key : String) (standard : α)
    (parse : Document → Option α) : Option α := do
  let value ← valueIn? (root.get? table) key
  match value with
  | some value => parse value
  | none => return standard

/-- The text of a float without an exponent, and without a point when it is integral. -/
def floatText (x : Binary64) : List Char :=
  let digits :=
    if x.magnitude = 0 then ['0'] else Text.dropEndings ['.', '0'] (Binary64.positional x.shortest)
  if x.isNegative then '-' :: digits else digits

def text? : Document → Option String
  | .string text => some text
  | .bool true => some "true"
  | .bool false => some "false"
  | .int i => some (toString i)
  | .float x => some (String.ofList (floatText x))
  | _ => none

/-- A choice by its name in any case; a table of one entry stands for the name that is its key. -/
def choice? {α : Type} (choices : List α) (name : α → String) : Document → Option α
  | .string text => choices.find? fun choice => Text.lowercase text == name choice
  | .object [(text, _)] => choices.find? fun choice => Text.lowercase text == name choice
  | _ => none

/-- A float as a number: the nearest one, a half going up. -/
def roundedCount (x : Binary64) : Nat :=
  if x.isNegative then 0
  else
    let ratio := x.ratio
    min ((2 * ratio.1 + ratio.2) / (2 * ratio.2)) (wordCount - 1)

def count? : Document → Option Nat
  | .int i => if 0 ≤ i ∧ i < wordCount then some i.toNat else none
  | .bool b => some b.toNat
  | .float x => some (roundedCount x)
  | .string text =>
    let name := Text.lowercase text
    if ["true", "on", "yes"].contains name then some 1
    else if ["false", "off", "no"].contains name then some 0
    else (Text.unsigned? text.toList).filter (· < wordCount)
  | _ => none

def texts? : Document → Option (List String)
  | .array elements => elements.mapM text?
  | _ => none

def ofDocument? (root : Document) : Option Settings := do
  let storePaths ← read? root "store" "paths" standard.storePaths texts?
  let conversionMode ← read? root "conversion" "mode" standard.conversionMode
    (choice? Mode.all Mode.name)
  let validationMode ← read? root "validation" "mode" standard.validationMode
    (choice? Mode.all Mode.name)
  let listStrategy ← read? root "merge" "list_strategy" standard.listStrategy
    (choice? ListStrategy.all ListStrategy.name)
  let maxDepth ← read? root "limits" "max_depth" standard.maxDepth count?
  return { storePaths, conversionMode, validationMode, listStrategy, maxDepth }

end Settings

end DataSchema
