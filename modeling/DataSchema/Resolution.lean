import DataSchema.Store

/-!
# Resolving references

Resolution replaces every reference of a schema by a copy of its target, with the local fields of
the referring node laid over it. The target is resolved first, at the place of the reference and one
level deeper, so references may chain; a reference that is met again while its target is being
resolved is an error. On the expanded tree resolution checks that primary keys are keys of the list
items, that formats are registered and that patterns compile, and it collects the compiled patterns.
-/

namespace DataSchema

/-- What resolution reads but does not change. -/
structure Surroundings where
  store : Store
  formats : Formats
  maxDepth : Nat

/-- A computation that may fail and collects compiled patterns. -/
abbrev Resolving (α : Type) := StateT Patterns (Except SchemaError) α

namespace Resolution

def fail {α : Type} (error : SchemaError) : Resolving α := fun _ => .error error

def lift {α : Type} (result : Except SchemaError α) : Resolving α :=
  fun patterns => result.map (·, patterns)

/-- Compiles the pattern of a text node unless that was done before. -/
def compile (path : Path) (c : TextConstraints) : Resolving Unit := fun patterns =>
  match c.pattern, c.patternSource? with
  | some pattern, some source =>
    match patterns.lookup source with
    | some _ => .ok ((), patterns)
    | none =>
      match Pattern.ofSource? source with
      | some compiled => .ok ((), patterns ++ [(source, compiled)])
      | none => .error (.invalidPattern (path.join (.key "pattern")) pattern)
  | _, _ => .ok ((), patterns)

def checkFormat (formats : Formats) (path : Path) (c : TextConstraints) : Except SchemaError Unit :=
  match c.format with
  | some format =>
    if formats.contains format then .ok ()
    else .error (.unknownFormat (path.join (.key "format")) format)
  | none => .ok ()

def checkPrimaryKey (path : Path) (items : Option Node) (c : ListConstraints) :
    Except SchemaError Unit :=
  match c.primaryKey, items with
  | some key, some items =>
    if (items.staticKey? key).isSome then .ok ()
    else .error (.invalidPrimaryKey (path.join (.key "primary_key")) key)
  | _, _ => .ok ()

/-- Resolves the nodes of keys one after the other. -/
def eachKey (resolve : Path → Node → Resolving Node) (path : Path) :
    List (String × Node) → Resolving (List (String × Node))
  | [] => pure []
  | (key, node) :: rest => do
    let node ← resolve (path.join (.key key)) node
    let rest ← eachKey resolve path rest
    return (key, node) :: rest

def optional {α : Type} (resolve : α → Resolving α) : Option α → Resolving (Option α)
  | none => pure none
  | some value => do
    let value ← resolve value
    return some value

/-- Puts the local fields of a node over its resolved target. -/
def overlay (reference : String) (path : Path) (target own : Node) : Except SchemaError Node :=
  if target.kind = own.kind then (target.override own path).mapError SchemaError.ofKindConflict
  else .error (.kindConflict (.reference reference path) target.kind own.kind)

/-- Replaces the reference of a node, if it has one, by its target; `resolve` resolves the target
while the reference is in progress. -/
def expand (around : Surroundings) (guarded : Bool) (inProgress : List String)
    (resolve : List String → Node → Resolving Node) (path : Path) (node : Node) : Resolving Node :=
  match node.attributes.reference with
  | none => pure node
  | some reference => do
    if guarded && inProgress.contains reference then
      fail (.cyclicReference (inProgress ++ [reference]))
    let target ← lift (around.store.fragment reference)
    let target ← resolve (inProgress ++ [reference]) target
    lift (overlay reference path target
      (node.withAttributes { node.attributes with reference := none }))

/-- Resolves what lies below a node without reference, and checks the node. -/
def descend (formats : Formats) (resolve : Path → Node → Resolving Node) (path : Path) :
    Node → Resolving Node
  | .dict a keys dynamicKeys other => do
    let keys ← optional (eachKey resolve (path.join (.key "keys"))) keys
    let dynamicKeys ← optional (resolve (path.join (.key "dynamic_keys"))) dynamicKeys
    return .dict a keys dynamicKeys other
  | .list a items c => do
    let items ← optional (resolve (path.join (.key "items"))) items
    lift (checkPrimaryKey path items c)
    return .list a items c
  | .str a c => do
    lift (checkFormat formats path c)
    compile path c
    return .str a c
  | node => pure node

/-- Resolves a node with `room` levels left. `guarded` says whether references
in progress are watched. -/
def resolveWithin (around : Surroundings) (guarded : Bool) :
    Nat → List String → Path → Node → Resolving Node
  | 0, _, path, _ => fail (.depthExceeded path around.maxDepth)
  | room + 1, inProgress, path, node => do
    let node ← expand around guarded inProgress
      (fun inProgress target => resolveWithin around guarded room inProgress path target) path node
    descend around.formats (resolveWithin around guarded room inProgress) path node

end Resolution

namespace Node

/-- A copy of the node without references, and the patterns compiled for it. -/
def resolve (node : Node) (around : Surroundings) : Except SchemaError (Node × Patterns) :=
  Resolution.resolveWithin around true (around.maxDepth + 1) [] [] node []

end Node

end DataSchema
