import DataSchema.Node.Written
import DataSchema.Text.Split
import DataSchema.Text.UpperCase

/-!
# Form fields

A node is flattened into the input fields of a form: a dict with keys is a group of the
fields of its keys, a list with elements is a collection over one field named `item`, and
scalars are typed inputs. Ids chain the names of the fields around. Dicts without keys and
lists without elements have no fields.
-/

namespace DataSchema

inductive FieldKind where
  | group | collection | string | integer | boolean
deriving DecidableEq, Repr

namespace FieldKind

def name : FieldKind → String
  | .group => "group"
  | .collection => "collection"
  | .string => "string"
  | .integer => "integer"
  | .boolean => "boolean"

end FieldKind

structure FormField where
  id : String
  name : String
  label : String
  kind : FieldKind
  parent : Option String
  description : Option String
  required : Option Bool
  fallback : Option Document
  /-- The ids of the fields directly in a group. -/
  members : List String
  /-- The id of the element field of a collection. -/
  baseField : Option String
  /-- The id of the member that identifies the elements of a collection. -/
  key : Option String
  minLength : Option Nat
  maxLength : Option Nat
  min : Option Int
  max : Option Int
  staticOptions : Option Document
  stringFormat : Option String
  pattern : Option String
deriving DecidableEq

namespace Label

def knownWords : List String := ["id", "ip", "mtu", "mac", "bgp", "vrf", "asn", "evpn", "mlag"]

/-- The label of one word: abbreviations in capitals, other words with a capital. -/
def word (text : String) : String :=
  if knownWords.contains text then Text.uppercase text
  else if text = "ipv4" then "IPv4"
  else if text = "ipv6" then "IPv6"
  else match text.toList with
    | c :: rest => String.ofList (Text.upperChar c ++ rest)
    | [] => ""

/-- The label of a key, such as `Vlan ID` for `vlan_id`. -/
def ofKey (key : String) : String := " ".intercalate ((Text.steps '_' key.toList).map word)

end Label

namespace FormField

/-- The field of a node before anything of its kind is filled in. -/
def bare (node : Node) (name : String) (parent : Option String) (kind : FieldKind) : FormField where
  id := match parent with
    | some parent => parent ++ "-" ++ name
    | none => name
  name := name
  label := node.attributes.displayName.getD (Label.ofKey name)
  kind := kind
  parent := parent
  description := node.attributes.description
  required := node.attributes.required
  fallback := node.attributes.fallback
  members := []
  baseField := none
  key := none
  minLength := none
  maxLength := none
  min := none
  max := none
  staticOptions := none
  stringFormat := none
  pattern := none

/-- The input format for a format of texts. -/
def inputFormat? : String → Option String
  | "ipv4" | "ip" => some "ip"
  | "ipv6" => some "ipv6"
  | "ipv4_cidr" | "ipv6_cidr" | "cidr" => some "cidr"
  | "mac" => some "mac"
  | _ => none

/-- Tells a collection about its element field, and about the member that holds the primary key. -/
def withBase (collection : FormField) (primaryKey : Option String) (base : Option FormField) :
    FormField :=
  match base with
  | none => collection
  | some base =>
    let key := primaryKey.bind fun key =>
      let id := base.id ++ "-" ++ key
      if base.kind = .group ∧ id ∈ base.members then some id else none
    { collection with baseField := some base.id, key := key }

mutual

/-- The fields of a node, its own first. -/
def fields (name : String) (parent : Option String) : Node → List FormField
  | .str a c =>
    [{ bare (.str a c) name parent .string with
        minLength := c.minLength
        maxLength := c.maxLength
        staticOptions := c.validValues.map (Field.ofList .string)
        stringFormat := c.format.bind inputFormat?
        pattern := c.pattern }]
  | .int a c =>
    [{ bare (.int a c) name parent .integer with
        min := c.min
        max := c.max
        staticOptions := c.validValues.map (Field.ofList .int) }]
  | .bool a c => [bare (.bool a c) name parent .boolean]
  | .dict a keys dynamicKeys other => match keys with
    | none => []
    | some keys =>
      if keys.isEmpty then []
      else
        let group := bare (.dict a (some keys) dynamicKeys other) name parent .group
        let below := keyFields group.id keys
        { group with members := below.filterMap fun fields => fields.head?.map FormField.id } ::
          below.flatten
  | .list a items c => match items with
    | none => []
    | some items =>
      let collection := bare (.list a (some items) c) name parent .collection
      let below := fields "item" (some collection.id) items
      collection.withBase c.primaryKey below.head? :: below

/-- The fields of each key. -/
def keyFields (parent : String) : List (String × Node) → List (List FormField)
  | [] => []
  | (key, node) :: rest => fields key (some parent) node :: keyFields parent rest

end

/-- The fields of a node under a name. -/
def ofNode (name : String) (node : Node) : List FormField := fields name none node

open DataSchema.Field in
def toDocument (f : FormField) : Document :=
  .object (("id", .string f.id) :: ("name", .string f.name) :: ("label", .string f.label)
    :: ("type", .string f.kind.name)
    :: (entry "parent" .string f.parent ++ entry "description" .string f.description
      ++ entry "required" .bool f.required ++ entry "default" (fun value => value) f.fallback
      ++ (if f.members.isEmpty then [] else [("members", ofList .string f.members)])
      ++ entry "base_field" .string f.baseField ++ entry "key" .string f.key
      ++ entry "min_length" ofLength f.minLength ++ entry "max_length" ofLength f.maxLength
      ++ entry "min" .int f.min ++ entry "max" .int f.max
      ++ entry "static_options" (fun value => value) f.staticOptions
      ++ entry "string_format" .string f.stringFormat ++ entry "pattern" .string f.pattern))

/-- A list of fields as a document. -/
def listDocument (fields : List FormField) : Document := .array (fields.map toDocument)

end FormField

end DataSchema
