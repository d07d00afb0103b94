import DataSchema.Node.Basic
import DataSchema.Path

/-!
# Merging schema nodes

One node is laid over another of the same kind: fields that the overlay sets win, nodes below are
merged in turn, and keys that only the overlay has go to the end. Lists of values are united;
`ListOrder` says whose values come first. Extending a schema puts the values of the base first, and
the local fields of a reference put their own first.
-/

namespace DataSchema

/-- Whose values come first when two lists of values are united. -/
inductive ListOrder where
  | baseFirst | overlayFirst
deriving DecidableEq

/-- Two nodes of different kinds met at a path. -/
structure KindConflict where
  path : Path
  base : Kind
  overlay : Kind
deriving DecidableEq

/-- The values of the first list and then, without repetition, those of the
second that are missing. -/
def appendMissing {α : Type} [DecidableEq α] (first rest : List α) : List α :=
  rest.foldl (fun values value => if value ∈ values then values else values ++ [value]) first

namespace ListOrder

def unite {α : Type} [DecidableEq α] (order : ListOrder) :
    Option (List α) → Option (List α) → Option (List α)
  | base, none => base
  | none, some overlay => some overlay
  | some base, some overlay =>
    match order with
    | .baseFirst => some (appendMissing base overlay)
    | .overlayFirst => some (appendMissing overlay base)

end ListOrder

def Attributes.merge (order : ListOrder) (base overlay : Attributes) : Attributes where
  reference := overlay.reference.or base.reference
  required := overlay.required.or base.required
  fallback := overlay.fallback.or base.fallback
  description := overlay.description.or base.description
  displayName := overlay.displayName.or base.displayName
  convertTypes := order.unite base.convertTypes overlay.convertTypes

def TextConstraints.merge (order : ListOrder) (base overlay : TextConstraints) :
    TextConstraints where
  validValues := order.unite base.validValues overlay.validValues
  minLength := overlay.minLength.or base.minLength
  maxLength := overlay.maxLength.or base.maxLength
  pattern := overlay.pattern.or base.pattern
  format := overlay.format.or base.format
  convertToLowerCase := overlay.convertToLowerCase.or base.convertToLowerCase

def IntConstraints.merge (order : ListOrder) (base overlay : IntConstraints) : IntConstraints where
  validValues := order.unite base.validValues overlay.validValues
  min := overlay.min.or base.min
  max := overlay.max.or base.max

def BoolConstraints.merge (order : ListOrder) (base overlay : BoolConstraints) :
    BoolConstraints where
  validValues := order.unite base.validValues overlay.validValues

def ListConstraints.merge (base overlay : ListConstraints) : ListConstraints where
  primaryKey := overlay.primaryKey.or base.primaryKey
  minLength := overlay.minLength.or base.minLength
  maxLength := overlay.maxLength.or base.maxLength

namespace Node

mutual

/-- Lays `overlay` over `base`. -/
def merge (order : ListOrder) (path : Path) (base : Node) : Node → Except KindConflict Node
  | .str a c => match base with
    | .str b d => .ok (.str (b.merge order a) (d.merge order c))
    | base => .error ⟨path, base.kind, .str⟩
  | .int a c => match base with
    | .int b d => .ok (.int (b.merge order a) (d.merge order c))
    | base => .error ⟨path, base.kind, .int⟩
  | .bool a c => match base with
    | .bool b d => .ok (.bool (b.merge order a) (d.merge order c))
    | base => .error ⟨path, base.kind, .bool⟩
  | .dict a keys dynamicKeys other => match base with
    | .dict b baseKeys baseDynamicKeys baseOther => do
      let mergedDynamicKeys ← mergeOptional order (path.join (.key "dynamic_keys"))
        baseDynamicKeys dynamicKeys
      let mergedKeys ← mergeOptionalKeys order (path.join (.key "keys")) baseKeys keys
      return .dict (b.merge order a) mergedKeys mergedDynamicKeys (other.or baseOther)
    | base => .error ⟨path, base.kind, .dict⟩
  | .list a items c => match base with
    | .list b baseItems d => do
      let mergedItems ← mergeOptional order (path.join (.key "items")) baseItems items
      return .list (b.merge order a) mergedItems (d.merge c)
    | base => .error ⟨path, base.kind, .list⟩

def mergeOptional (order : ListOrder) (path : Path) (base : Option Node) :
    Option Node → Except KindConflict (Option Node)
  | none => .ok base
  | some overlay => match base with
    | none => .ok (some overlay)
    | some base => do
      let merged ← merge order path base overlay
      return some merged

def mergeOptionalKeys (order : ListOrder) (path : Path) (base : Option (List (String × Node))) :
    Option (List (String × Node)) → Except KindConflict (Option (List (String × Node)))
  | none => .ok base
  | some overlay => do
    let merged ← mergeKeys order path (base.getD []) overlay
    return some merged

/-- Lays the keys of the overlay over those of the base one after the other. -/
def mergeKeys (order : ListOrder) (path : Path) (base : List (String × Node)) :
    List (String × Node) → Except KindConflict (List (String × Node))
  | [] => .ok base
  | (key, overlay) :: rest =>
    match base.lookup key with
    | some existing => do
      let merged ← merge order (path.join (.key key)) existing overlay
      mergeKeys order path (Entries.insert base key merged) rest
    | none => mergeKeys order path (Entries.insert base key overlay) rest

end

/-- Extends a node: set fields of the overlay win, lists of values begin with the node's own. -/
def extend (base overlay : Node) (path : Path) : Except KindConflict Node :=
  base.merge .baseFirst path overlay

/-- Puts the local fields of a referring node over the fragment it refers to: lists of values
begin with the local ones. -/
def override (fragment own : Node) (path : Path) : Except KindConflict Node :=
  fragment.merge .overlayFirst path own

end Node

end DataSchema
