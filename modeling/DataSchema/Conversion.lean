import DataSchema.Document.Compact
import DataSchema.Node.Basic
import DataSchema.Path
import DataSchema.Text.LowerCase
import DataSchema.Text.Numeral

/-!
# Conversion of loosely typed values

`Node.convert` turns scalars of an instance into the kinds that a schema asks for where the
node allows it, and lower-cases texts where the node says so. It never fails: a value that
cannot be turned stays as it is. Every attempt leaves a note; containers, nulls and values
without a schema are left alone.
-/

namespace DataSchema

/-- What was attempted on a value. -/
inductive Attempt where
  | converted (value : Document) (target : Kind)
  | failed (value : Document) (target : Kind)
  | lowered (text : String)
deriving DecidableEq

namespace Attempt

def source : Attempt → Shape
  | .converted value _ | .failed value _ => value.shape
  | .lowered _ => .str

def target : Attempt → Kind
  | .converted _ target | .failed _ target => target
  | .lowered _ => .str

def isFailure : Attempt → Bool
  | .failed .. => true
  | _ => false

def outcome (attempt : Attempt) : String := if attempt.isFailure then "failed" else "converted"

def message : Attempt → String
  | .converted value target =>
    s!"Converted {value.compact} from '{value.shape.name}' to '{target.name}'"
  | .failed value target =>
    s!"Unable to convert {value.compact} from '{value.shape.name}' to '{target.name}'"
  | .lowered text => s!"Converted '{text}' to lower case"

end Attempt

/-- An attempt and the path of the value it was made on. -/
structure Note where
  path : Path
  attempt : Attempt
deriving DecidableEq

namespace Note

/-- The note as seen from one step above. -/
def below (segment : Segment) (note : Note) : Note := { note with path := segment :: note.path }

def text (note : Note) : String := s!"'{note.path.text}': {note.attempt.message}"

end Note

namespace Conversion

/-- The integer of a decimal text: digits behind an optional minus sign, within a 64-bit word. -/
def parseInt? (text : String) : Option Int :=
  let (negative, digits) := match text.toList with
    | '-' :: rest => (true, rest)
    | digits => (false, digits)
  if Text.isDigits digits then
    let value := Text.naturalValue digits
    if negative then if value ≤ signedCount then some (-(value : Int)) else none
    else if value < signedCount then some value else none
  else none

def parseBool? : String → Option Bool
  | "true" | "yes" => some true
  | "false" | "no" => some false
  | _ => none

/-- The value of the target kind that a scalar stands for. -/
def coerce? (target : Kind) (value : Document) : Option Document :=
  match target, value with
  | .int, .string text => (parseInt? text).map .int
  | .bool, .string text => (parseBool? text).map .bool
  | .str, .int i => some (.string (Document.int i).compact)
  | .str, .bool b => some (.string (Document.bool b).compact)
  | _, _ => none

/-- The kinds that a node converts from when it does not say so: integers and booleans
may be written as texts. -/
def defaultSources : Kind → List Kind
  | .int | .bool => [.str]
  | _ => []

/-- The kind of a scalar that can be converted at all. -/
def scalarKind? : Document → Option Kind
  | .string _ => some .str
  | .int _ => some .int
  | .bool _ => some .bool
  | _ => none

/-- Whether the node allows a value to be converted. -/
def isAllowed (node : Node) (value : Document) : Bool :=
  match scalarKind? value with
  | some source => ((node.attributes.convertTypes).getD (defaultSources node.kind)).contains source
  | none => false

/-- Converts a scalar to the kind of its node. -/
def convertKind (node : Node) (value : Document) : Document × List Attempt :=
  if node.kind.admits value then (value, [])
  else if isAllowed node value then
    match coerce? node.kind value with
    | some converted => (converted, [.converted value node.kind])
    | none => (value, [.failed value node.kind])
  else (value, [])

/-- Lower-cases a text whose node ignores case. -/
def lowerCase (node : Node) (value : Document) : Document × List Attempt :=
  match node, value with
  | .str _ c, .string text =>
    let lowered := Text.lowercase text
    if c.ignoresCase && lowered != text then (.string lowered, [.lowered text]) else (value, [])
  | _, _ => (value, [])

def convertScalar (node : Node) (value : Document) : Document × List Note :=
  let (converted, first) := convertKind node value
  let (result, second) := lowerCase node converted
  (result, (first ++ second).map fun attempt => ⟨[], attempt⟩)

end Conversion

namespace Node

open Conversion

mutual

/-- Converts an instance that the node governs at the given depth; what lies deeper than
the limit is left alone. -/
def convert (maxDepth depth : Nat) (node : Node) : Document → Document × List Note
  | .null => (.null, [])
  | .object entries =>
    if depth > maxDepth then (.object entries, [])
    else match node with
      | .dict .. =>
        let (entries, notes) := convertEntries maxDepth (depth + 1) node entries
        (.object entries, notes)
      | _ => (.object entries, [])
  | .array elements =>
    if depth > maxDepth then (.array elements, [])
    else match node with
      | .list _ (some item) _ =>
        let (elements, notes) := convertElements maxDepth (depth + 1) item 0 elements
        (.array elements, notes)
      | _ => (.array elements, [])
  | value =>
    if depth > maxDepth then (value, [])
    else match node with
      | .dict .. | .list .. => (value, [])
      | node => convertScalar node value

/-- Converts the entries of an object that have a schema. -/
def convertEntries (maxDepth depth : Nat) (node : Node) :
    List (String × Document) → List (String × Document) × List Note
  | [] => ([], [])
  | (key, value) :: rest =>
    let (converted, notes) := match node.child? key with
      | some child =>
        let (converted, notes) := convert maxDepth depth child value
        (converted, notes.map (Note.below (.key key)))
      | none => (value, [])
    let (others, otherNotes) := convertEntries maxDepth depth node rest
    ((key, converted) :: others, notes ++ otherNotes)

def convertElements (maxDepth depth : Nat) (item : Node) (index : Nat) :
    List Document → List Document × List Note
  | [] => ([], [])
  | value :: rest =>
    let (converted, notes) := convert maxDepth depth item value
    let (others, otherNotes) := convertElements maxDepth depth item (index + 1) rest
    (converted :: others, notes.map (Note.below (.index index)) ++ otherNotes)

end

end Node

end DataSchema
