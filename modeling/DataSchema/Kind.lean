import DataSchema.Document.Basic

/-!
# Kinds and shapes

A schema node has one of five kinds, and a document has one of seven shapes. A kind admits a
document when its shape is the kind's own; floats and nulls are admitted by none.
-/

namespace DataSchema

/-- The kinds of schema nodes. -/
inductive Kind where
  | str | int | bool | dict | list
deriving DecidableEq, Repr

namespace Kind

def all : List Kind := [.str, .int, .bool, .dict, .list]

def name : Kind → String
  | .str => "str"
  | .int => "int"
  | .bool => "bool"
  | .dict => "dict"
  | .list => "list"

/-- The kind of a name; the scalar kinds have a long name as well. -/
def ofName? : String → Option Kind
  | "str" | "string" => some .str
  | "int" | "integer" => some .int
  | "bool" | "boolean" => some .bool
  | "dict" => some .dict
  | "list" => some .list
  | _ => none

/-- Whether the top of a document is of this kind. -/
def admits : Kind → Document → Bool
  | .str, .string _ => true
  | .int, .int _ => true
  | .bool, .bool _ => true
  | .dict, .object _ => true
  | .list, .array _ => true
  | _, _ => false

end Kind

/-- What a document is at its top. -/
inductive Shape where
  | null | bool | int | float | str | list | dict
deriving DecidableEq, Repr

namespace Shape

def name : Shape → String
  | .null => "null"
  | .bool => "bool"
  | .int => "int"
  | .float => "float"
  | .str => "str"
  | .list => "list"
  | .dict => "dict"

def isContainer : Shape → Bool
  | .list | .dict => true
  | _ => false

end Shape

def Document.shape : Document → Shape
  | .null => .null
  | .bool _ => .bool
  | .int _ => .int
  | .float _ => .float
  | .string _ => .str
  | .array _ => .list
  | .object _ => .dict

end DataSchema
