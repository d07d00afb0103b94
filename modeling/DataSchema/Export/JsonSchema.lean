import DataSchema.Formats
import DataSchema.Node.Written
import DataSchema.Pattern.Reader

/-!
# JSON Schema

`JsonSchema.ofNode` writes a node as a JSON Schema document of draft 7. `JsonSchema.accepts` says
which instances such a document accepts, for the keywords that are written: types, enumerations,
bounds, lengths, patterns as unanchored searches, the formats of addresses, properties and items. A
number without fractional part is an integer there, and numbers are compared by value.
-/

namespace DataSchema

namespace JsonSchema

def dialect : String := "http://json-schema.org/draft-07/schema#"

open DataSchema.Field

def annotations (a : Attributes) : Entries Document :=
  entry "title" .string a.displayName ++ entry "description" .string a.description ++
    entry "default" id a.fallback

/-- The formats that draft 7 defines itself. -/
def formatEntry (format : Option String) : Entries Document :=
  match format with
  | some format => if format = "ipv4" ∨ format = "ipv6" then [("format", .string format)] else []
  | none => []

def nonemptyEntry (key : String) (value : Document) (isEmpty : Bool) : Entries Document :=
  if isEmpty then [] else [(key, value)]

/-- The keys that an object must have: the required ones, and the primary key of the
list it is an element of. -/
def requiredKeys (identifying : Option String) (keys : List (String × Node)) : List String :=
  (keys.filter fun entry => entry.2.isRequired || identifying == some entry.1).map Prod.fst

mutual

/-- The keywords for a node; `identifying` is the primary key of the list
whose element it describes. -/
def body (identifying : Option String) : Node → Document
  | .str a c =>
    .object (annotations a ++ ("type", .string "string") :: (entry "minLength" ofLength c.minLength
      ++ entry "maxLength" ofLength c.maxLength ++ entry "pattern" .string c.pattern
      ++ entry "enum" (ofList .string) c.validValues ++ formatEntry c.format))
  | .int a c => .object (annotations a ++ ("type", .string "integer") :: (entry "minimum" .int c.min
      ++ entry "maximum" .int c.max ++ entry "enum" (ofList .int) c.validValues))
  | .bool a c =>
    .object (annotations a ++ ("type", .string "boolean") ::
      entry "enum" (ofList .bool) c.validValues)
  | .dict a keys dynamicKeys other => .object (annotations a ++ ("type", .string "object")
      :: ((match keys with
            | some keys => nonemptyEntry "properties" (.object (properties keys)) keys.isEmpty
            | none => [])
        ++ nonemptyEntry "required" (ofList .string (requiredKeys identifying (keys.getD [])))
            (requiredKeys identifying (keys.getD [])).isEmpty
        ++ [("additionalProperties", match dynamicKeys with
            | some node => body none node
            | none => .bool (other.getD false))]))
  | .list a items c => .object (annotations a ++ ("type", .string "array")
      :: ((match items with
            | some items => [("items", body c.primaryKey items)]
            | none => [])
        ++ entry "minItems" ofLength c.minLength ++ entry "maxItems" ofLength c.maxLength))

def properties : List (String × Node) → Entries Document
  | [] => []
  | (key, node) :: rest => (key, body none node) :: properties rest

end

/-- The JSON Schema document of a node. -/
def ofNode (node : Node) : Document :=
  match body none node with
  | .object entries => .object (("$schema", .string dialect) :: entries)
  | document => document

/-! ### What a document accepts -/

/-- The sign and the absolute value, as a quotient, of a number. -/
def number? : Document → Option (Int × Nat)
  | .int i => some (i, 1)
  | .float x =>
    let (num, den) := x.ratio
    some (if x.isNegative then -(num : Int) else num, den)
  | _ => none

def isInteger (value : Document) : Bool :=
  match number? value with
  | some (num, den) => num % den == 0
  | none => false

/-- Whether a bound on numbers holds; it says nothing about other values. -/
def boundHolds (holds : Int → Int → Bool) (value bound : Document) : Bool :=
  match number? value, number? bound with
  | some (a, b), some (c, d) => holds (a * d) (c * b)
  | _, _ => true

def typeHolds (type : String) (value : Document) : Bool :=
  match type, value with
  | "string", .string _ => true
  | "boolean", .bool _ => true
  | "object", .object _ => true
  | "array", .array _ => true
  | "null", .null => true
  | "integer", value => isInteger value
  | "number", value => (number? value).isSome
  | _, _ => false

def equals (a b : Document) : Bool :=
  match number? a, number? b with
  | some (m, d), some (n, e) => m * e == n * d
  | _, _ => a == b

def lengthHolds (holds : Nat → Nat → Bool) (length : Option Nat) (bound : Document) : Bool :=
  match length, bound with
  | some length, .int bound => holds length bound.toNat
  | _, _ => true

def textLength? : Document → Option Nat
  | .string text => some text.length
  | _ => none

def itemCount? : Document → Option Nat
  | .array elements => some elements.length
  | _ => none

def patternHolds (source : String) (value : Document) : Bool :=
  match value with
  | .string text => (Pattern.ofSource? source).any (·.isMatch text)
  | _ => true

def formatHolds (format : String) (value : Document) : Bool :=
  match value with
  | .string text => (Formats.builtin.check? format text).getD true
  | _ => true

/-- The assertion of a keyword that has no subschemas. -/
def simpleHolds (keyword : String) (argument value : Document) : Bool :=
  match keyword, argument with
  | "type", .string type => typeHolds type value
  | "enum", .array values => values.any (equals · value)
  | "minimum", bound => boundHolds (fun a b => a ≥ b) value bound
  | "maximum", bound => boundHolds (fun a b => a ≤ b) value bound
  | "minLength", bound => lengthHolds (fun a b => a ≥ b) (textLength? value) bound
  | "maxLength", bound => lengthHolds (fun a b => a ≤ b) (textLength? value) bound
  | "minItems", bound => lengthHolds (fun a b => a ≥ b) (itemCount? value) bound
  | "maxItems", bound => lengthHolds (fun a b => a ≤ b) (itemCount? value) bound
  | "pattern", .string source => patternHolds source value
  | "format", .string format => formatHolds format value
  | "required", .array keys => match value with
    | .object entries => keys.all fun key => match key with
      | .string key => (entries.lookup key).isSome
      | _ => true
    | _ => true
  | _, _ => true

/-- The keys that `properties` describes. -/
def propertyNames (entries : Entries Document) : List String :=
  match entries.lookup "properties" with
  | some (.object properties) => properties.map Prod.fst
  | _ => []

mutual

/-- Whether a schema document accepts an instance. -/
def accepts : Document → Document → Bool
  | .bool b, _ => b
  | .object entries, value => keywordsHold (propertyNames entries) entries value
  | _, _ => true

def keywordsHold (declared : List String) : List (String × Document) → Document → Bool
  | [], _ => true
  | (keyword, argument) :: rest, value =>
    (if keyword == "properties" then
        match argument with
        | .object schemas => propertiesHold schemas value
        | _ => true
      else if keyword == "additionalProperties" then
        match value with
        | .object entries =>
          entries.all fun entry => declared.contains entry.1 || accepts argument entry.2
        | _ => true
      else if keyword == "items" then
        match value with
        | .array elements => elements.all fun element => accepts argument element
        | _ => true
      else simpleHolds keyword argument value)
    && keywordsHold declared rest value

def propertiesHold : List (String × Document) → Document → Bool
  | [], _ => true
  | (key, schema) :: rest, value =>
    (match value.get? key with
      | some property => accepts schema property
      | none => true)
    && propertiesHold rest value

end

end JsonSchema

end DataSchema
