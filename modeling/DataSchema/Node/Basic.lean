import DataSchema.Kind

/-!
# Schema nodes

A schema is a tree of nodes. Every node carries the same attributes, and the constraints that make
sense for its kind alone. A dict node describes its static keys in order, a schema for all other
keys, and whether keys without a schema are allowed; a list node describes its elements and may name
the key that identifies each of them.
-/

namespace DataSchema

/-- What nodes of every kind may say. -/
structure Attributes where
  /-- The fragment that this node builds on, `<entry>#<path>`; resolution removes it. -/
  reference : Option String
  required : Option Bool
  fallback : Option Document
  description : Option String
  displayName : Option String
  /-- The kinds from which a value may be converted. -/
  convertTypes : Option (List Kind)
deriving DecidableEq

namespace Attributes

def empty : Attributes := ⟨none, none, none, none, none, none⟩

end Attributes

structure TextConstraints where
  validValues : Option (List String)
  minLength : Option Nat
  maxLength : Option Nat
  pattern : Option String
  format : Option String
  convertToLowerCase : Option Bool
deriving DecidableEq

namespace TextConstraints

/-- Texts that conversion lower-cases are compared without regard to case. -/
def ignoresCase (c : TextConstraints) : Bool := c.convertToLowerCase.getD false

/-- The pattern as it is compiled. -/
def patternSource? (c : TextConstraints) : Option String :=
  c.pattern.map fun pattern => if c.ignoresCase then "(?i)" ++ pattern else pattern

end TextConstraints

structure IntConstraints where
  validValues : Option (List Int)
  min : Option Int
  max : Option Int
deriving DecidableEq

structure BoolConstraints where
  validValues : Option (List Bool)
deriving DecidableEq

structure ListConstraints where
  /-- The key that identifies an element of a list of dicts. -/
  primaryKey : Option String
  minLength : Option Nat
  maxLength : Option Nat
deriving DecidableEq

inductive Node where
  | str (attributes : Attributes) (constraints : TextConstraints)
  | int (attributes : Attributes) (constraints : IntConstraints)
  | bool (attributes : Attributes) (constraints : BoolConstraints)
  | dict (attributes : Attributes) (keys : Option (List (String × Node)))
      (dynamicKeys : Option Node) (allowOtherKeys : Option Bool)
  | list (attributes : Attributes) (items : Option Node) (constraints : ListConstraints)

namespace Node

def kind : Node → Kind
  | .str .. => .str
  | .int .. => .int
  | .bool .. => .bool
  | .dict .. => .dict
  | .list .. => .list

def attributes : Node → Attributes
  | .str a _ => a
  | .int a _ => a
  | .bool a _ => a
  | .dict a _ _ _ => a
  | .list a _ _ => a

def withAttributes (a : Attributes) : Node → Node
  | .str _ c => .str a c
  | .int _ c => .int a c
  | .bool _ c => .bool a c
  | .dict _ keys dynamicKeys other => .dict a keys dynamicKeys other
  | .list _ items c => .list a items c

def isRequired (node : Node) : Bool := node.attributes.required.getD false

/-- The node of a static key of a dict. -/
def staticKey? (key : String) : Node → Option Node
  | .dict _ (some keys) _ _ => keys.lookup key
  | _ => none

/-- The node that governs a key of a dict: its static key, or else the schema of all other keys. -/
def child? (key : String) : Node → Option Node
  | .dict _ keys dynamicKeys _ => (keys.bind (·.lookup key)).or dynamicKeys
  | _ => none

/-- The node of a list's elements. -/
def items? : Node → Option Node
  | .list _ items _ => items
  | _ => none

def primaryKey? : Node → Option String
  | .list _ _ c => c.primaryKey
  | _ => none

/-- The nodes directly below: static keys, then the schema of other keys, then the elements. -/
def children : Node → List Node
  | .dict _ keys dynamicKeys _ => (keys.getD []).map Prod.snd ++ dynamicKeys.toList
  | .list _ items _ => items.toList
  | _ => []

mutual

/-- Whether a reference is left at the node or anywhere below it. -/
def hasReferences : Node → Bool
  | .str a _ => a.reference.isSome
  | .int a _ => a.reference.isSome
  | .bool a _ => a.reference.isSome
  | .dict a keys dynamicKeys _ =>
    a.reference.isSome || optionalKeysHaveReferences keys || optionalHasReferences dynamicKeys
  | .list a items _ => a.reference.isSome || optionalHasReferences items

def optionalHasReferences : Option Node → Bool
  | none => false
  | some node => node.hasReferences

def optionalKeysHaveReferences : Option (List (String × Node)) → Bool
  | none => false
  | some keys => keysHaveReferences keys

def keysHaveReferences : List (String × Node) → Bool
  | [] => false
  | (_, node) :: rest => node.hasReferences || keysHaveReferences rest

end

end Node

end DataSchema
