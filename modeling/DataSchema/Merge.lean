import DataSchema.Error
import DataSchema.Node.Basic
import DataSchema.Validation.Rules

/-!
# Merging documents

An overlay is laid over a base. Objects merge key by key, and keys that only the overlay has go to
the end. A list whose node names a primary key merges as an ordered map: an element of the overlay
is laid over the element with the same key value, and goes to the end when there is none. Every
other list follows the strategy. Null in the overlay changes nothing, any other scalar replaces a
scalar, and a container only merges with one of its own shape.
-/

namespace DataSchema

/-- How two lists without a primary key are combined. -/
inductive ListStrategy where
  | append | prepend | replace | keep
deriving DecidableEq, Repr

namespace ListStrategy

def all : List ListStrategy := [.append, .prepend, .replace, .keep]

def name : ListStrategy → String
  | .append => "append"
  | .prepend => "prepend"
  | .replace => "replace"
  | .keep => "keep"

def ofName? (name : String) : Option ListStrategy := all.find? (·.name == name)

/-- What is said about a name that is no strategy. -/
def unknownName (name : String) : String :=
  s!"unknown list merge strategy '{name}', expected one of append, prepend, replace, keep"

def combine {α : Type} (strategy : ListStrategy) (base overlay : List α) : List α :=
  match strategy with
  | .append => base ++ overlay
  | .prepend => overlay ++ base
  | .replace => overlay
  | .keep => base

end ListStrategy

structure MergeOptions where
  strategy : ListStrategy
  maxDepth : Nat
deriving DecidableEq

namespace MergeOptions

def standard : MergeOptions := ⟨.append, defaultMaxDepth⟩

end MergeOptions

namespace Merge

/-- The text that identifies an element: that of its primary key value. -/
def identity? (key : String) (element : Document) : Option String :=
  (element.getSet? key).map Document.compact

/-- An element of a keyed list and the identity it came with. -/
abbrev Slot := Option String × Document

def slots (key : String) (elements : List Document) : List Slot :=
  elements.map fun element => (identity? key element, element)

/-- The place and the element of the first slot with an identity. -/
def find? (identity : String) : List Slot → Option (Nat × Document)
  | [] => none
  | (tag, element) :: rest =>
    if tag = some identity then some (0, element)
    else (find? identity rest).map fun (place, element) => (place + 1, element)

/-- Replaces the element of the first slot with an identity. -/
def replace (identity : String) (element : Document) : List Slot → List Slot
  | [] => []
  | (tag, old) :: rest =>
    if tag = some identity then (tag, element) :: rest
    else (tag, old) :: replace identity element rest

end Merge

namespace Document

open Merge

mutual

/-- Lays the overlay, which is the last argument, over the base; the node, if
there is one, governs both. -/
def mergeAt (options : MergeOptions) (depth : Nat) (node : Option Node) (base : Document) :
    Document → Except MergeError Document
  | .null =>
    if depth > options.maxDepth then .error (.depthExceeded [] options.maxDepth) else .ok base
  | .object overlay =>
    if depth > options.maxDepth then .error (.depthExceeded [] options.maxDepth)
    else match base with
      | .null => .ok (.object overlay)
      | .object entries => do
        let merged ← mergeEntries options (depth + 1) node entries overlay
        return .object merged
      | base => .error (.structureMismatch [] base.shape .dict)
  | .array overlay =>
    if depth > options.maxDepth then .error (.depthExceeded [] options.maxDepth)
    else match base with
      | .null => .ok (.array overlay)
      | .array elements =>
        match node.bind Node.primaryKey? with
        | some key => do
          let merged ← mergeKeyed options (depth + 1) (node.bind Node.items?) key
            (slots key elements) overlay
          return .array (merged.map Prod.snd)
        | none => .ok (.array (options.strategy.combine elements overlay))
      | base => .error (.structureMismatch [] base.shape .list)
  | overlay =>
    if depth > options.maxDepth then .error (.depthExceeded [] options.maxDepth)
    else if base.shape.isContainer then .error (.structureMismatch [] base.shape overlay.shape)
    else .ok overlay

/-- Lays the entries of the overlay over those of the base one after the other. -/
def mergeEntries (options : MergeOptions) (depth : Nat) (node : Option Node)
    (base : Entries Document) :
    List (String × Document) → Except MergeError (Entries Document)
  | [] => .ok base
  | (key, value) :: rest =>
    match base.lookup key with
    | some current => do
      let merged ← (mergeAt options depth (node.bind (·.child? key)) current value).mapError
        (MergeError.below (.key key))
      mergeEntries options depth node (base.insert key merged) rest
    | none => mergeEntries options depth node (base.insert key value) rest

/-- Lays the elements of the overlay over the slots of a keyed list one after the other. -/
def mergeKeyed (options : MergeOptions) (depth : Nat) (item : Option Node) (key : String)
    (base : List Slot) :
    List Document → Except MergeError (List Slot)
  | [] => .ok base
  | element :: rest =>
    match identity? key element with
    | none => mergeKeyed options depth item key (base ++ [(none, element)]) rest
    | some identity =>
      match find? identity base with
      | some (place, current) => do
        let merged ← (mergeAt options depth item current element).mapError
          (MergeError.below (.index place))
        mergeKeyed options depth item key (replace identity merged base) rest
      | none => mergeKeyed options depth item key (base ++ [(some identity, element)]) rest

end

/-- Lays an overlay over a base. -/
def merge (options : MergeOptions) (node : Option Node) (base overlay : Document) :
    Except MergeError Document :=
  base.mergeAt options 0 node overlay

/-- Merges documents from left to right; no documents give null. -/
def mergeAll (options : MergeOptions) (node : Option Node) (documents : List Document) :
    Except MergeError Document :=
  documents.foldlM (merge options node) .null

end Document

end DataSchema
