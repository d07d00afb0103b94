import DataSchema.Node.Basic
import DataSchema.Suggestion
import DataSchema.Text.LowerCase
import DataSchema.Validation.Problem
import DataSchema.Validation.Rules

/-!
# Validation

`Node.findings` lists what is wrong with an instance, in document order: a scalar's own problems;
for a dict, each static key in declaration order and then every other key in the order of the
instance; for a list, its length and then each element, followed by a repetition of the element's
primary key. Null means not set and has no problems, except that it is no list element. A value of
the wrong kind or nested too deeply has one problem and is not looked into.
-/

namespace DataSchema

namespace TextConstraints

/-- Whether a text is among the valid values, which are compared in lower
case when case is ignored. -/
def lists (c : TextConstraints) (values : List String) (text : String) : Bool :=
  if c.ignoresCase then values.any fun value => Text.lowercase value == Text.lowercase text
  else values.contains text

def lengthProblems (c : TextConstraints) (text : String) : List Problem :=
  let length := text.length
  (match c.minLength with
    | some min => if length < min then [.shortText text min] else []
    | none => [])
  ++ match c.maxLength with
    | some max => if length > max then [.longText text max] else []
    | none => []

def patternProblems (rules : Rules) (c : TextConstraints) (text : String) : List Problem :=
  match c.pattern, c.patternSource? with
  | some pattern, some source =>
    match rules.patterns.lookup source with
    | some compiled => if compiled.isMatch text then [] else [.patternMissed text pattern]
    | none => [.patternUnknown text pattern]
  | _, _ => []

def formatProblems (rules : Rules) (c : TextConstraints) (text : String) : List Problem :=
  match c.format with
  | some format =>
    match rules.formats.check? format text with
    | some true => []
    | some false => [.formatMissed text format]
    | none => [.formatUnknown text format]
  | none => []

def valueProblems (c : TextConstraints) (text : String) : List Problem :=
  match c.validValues with
  | some values => if c.lists values text then [] else [.unlistedText text values]
  | none => []

def problems (rules : Rules) (c : TextConstraints) (text : String) : List Problem :=
  c.lengthProblems text ++ c.patternProblems rules text ++ c.formatProblems rules text ++
    c.valueProblems text

end TextConstraints

/-- Integers are compared with the bounds only when they are words themselves. -/
def IntConstraints.problems (c : IntConstraints) (value : Int) : List Problem :=
  if !(isSignedWord value) then [.hugeInt value]
  else
    (match c.min with
      | some min => if value < min then [.lowInt value min] else []
      | none => [])
    ++ (match c.max with
      | some max => if value > max then [.highInt value max] else []
      | none => [])
    ++ match c.validValues with
      | some values => if values.contains value then [] else [.unlistedInt value values]
      | none => []

def BoolConstraints.problems (c : BoolConstraints) (value : Bool) : List Problem :=
  match c.validValues with
  | some values => if values.contains value then [] else [.unlistedBool value values]
  | none => []

def ListConstraints.problems (c : ListConstraints) (count : Nat) : List Problem :=
  (match c.minLength with
    | some min => if count < min then [.shortList count min] else []
    | none => [])
  ++ match c.maxLength with
    | some max => if count > max then [.longList count max] else []
    | none => []

namespace Validation

/-- A problem of the value itself. -/
def here (problem : Problem) : Finding := ⟨[], problem⟩

/-- The findings of one object entry after the other. -/
def underKey (key : String) (findings : List Finding) : List Finding :=
  findings.map (Finding.below (.key key))

def underIndex (index : Nat) (findings : List Finding) : List Finding :=
  findings.map (Finding.below (.index index))

/-- The problem of a key that the dict does not describe, if keys without a
schema are not allowed. -/
def unknownKey (declared : List String) (allowOtherKeys : Bool) (key : String) (value : Document) :
    List Finding :=
  if allowOtherKeys then []
  else [⟨[.key key], .unknownKey key (Suggestion.closest? declared key) value⟩]

/-- The first index at which a primary key value, given by its text, was used. -/
abbrev Seen := List (String × Nat)

/-- Whether the primary key value of an element was used before. -/
def repetition (primaryKey : Option String) (seen : Seen) (index : Nat) (element : Document) :
    List Finding :=
  match primaryKey with
  | none => []
  | some key =>
    match element.getSet? key with
    | none => []
    | some value =>
      match seen.lookup value.compact with
      | some first => [⟨[.index index, .key key], .repeatedKey key first value⟩]
      | none => []

def remember (primaryKey : Option String) (seen : Seen) (index : Nat) (element : Document) : Seen :=
  match primaryKey with
  | none => seen
  | some key =>
    match element.getSet? key with
    | none => seen
    | some value =>
      if (seen.lookup value.compact).isSome then seen else (value.compact, index) :: seen

/-- The findings of the elements from `index` on. `check` gives those of an element by itself. -/
def elements (primaryKey : Option String) (check : Document → List Finding) :
    Nat → Seen → List Document → List Finding
  | _, _, [] => []
  | index, seen, element :: rest =>
    underIndex index (check element) ++ repetition primaryKey seen index element
      ++ elements primaryKey check (index + 1) (remember primaryKey seen index element) rest

/-- The findings of an element: null is not allowed, and the primary key of the list is required. -/
def element (kind : Kind) (check : Document → List Finding) (value : Document) : List Finding :=
  if value.isNull then [here (.wrongKind kind value)] else check value

/-- The findings of the entries that no static key describes. `check` gives those of an entry
governed by the schema of all other keys. -/
def otherEntries (declared : List String) (check : Option (Document → List Finding))
    (allowOtherKeys : Bool) (entries : Entries Document) : List Finding :=
  (entries.filter fun entry => !declared.contains entry.1).flatMap fun entry =>
    match check with
    | some check => underKey entry.1 (check entry.2)
    | none => unknownKey declared allowOtherKeys entry.1 entry.2

end Validation

namespace Node

open Validation

mutual

/-- What is wrong with an instance that the node governs at the given depth; `required` is a key
that has to be set in it besides the required ones. -/
def findings (rules : Rules) (depth : Nat) (required : Option String) :
    Node → Document → List Finding
  | node, value =>
    if value.isNull then []
    else if depth > rules.maxDepth then [here (.tooDeep rules.maxDepth)]
    else match node with
      | .str _ c => match value with
        | .string text => (c.problems rules text).map here
        | value => [here (.wrongKind .str value)]
      | .int _ c => match value with
        | .int i => (c.problems i).map here
        | value => [here (.wrongKind .int value)]
      | .bool _ c => match value with
        | .bool b => (c.problems b).map here
        | value => [here (.wrongKind .bool value)]
      | .dict _ keys dynamicKeys allowOtherKeys => match value with
        | .object entries =>
          (match keys with
            | some keys => staticFindings rules depth required entries keys
            | none => [])
            ++ otherEntries ((keys.getD []).map Prod.fst)
              (match dynamicKeys with
                | some node => some (findings rules (depth + 1) none node)
                | none => none)
              (allowOtherKeys.getD false) entries
        | value => [here (.wrongKind .dict value)]
      | .list _ items c => match value with
        | .array values =>
          (c.problems values.length).map here
            ++ match items with
              | some item =>
                elements c.primaryKey
                  (element item.kind (findings rules (depth + 1) c.primaryKey item)) 0 [] values
              | none => elements c.primaryKey (fun _ => []) 0 [] values
        | value => [here (.wrongKind .list value)]

/-- The findings of the static keys, in declaration order. -/
def staticFindings (rules : Rules) (depth : Nat) (required : Option String)
    (entries : Entries Document) :
    List (String × Node) → List Finding
  | [] => []
  | (key, node) :: rest =>
    (match (entries.lookup key).filter fun value => !value.isNull with
      | some value => underKey key (findings rules (depth + 1) none node value)
      | none =>
        if node.isRequired || required == some key then [⟨[.key key], .missingKey key⟩] else [])
    ++ staticFindings rules depth required entries rest

end

end Node

end DataSchema
