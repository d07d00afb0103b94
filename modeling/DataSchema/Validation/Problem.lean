import DataSchema.Document.Compact
import DataSchema.Kind
import DataSchema.Path
import DataSchema.Text.Quoted

/-!
# Problems of instances

A problem says what is wrong with one place of an instance; a finding adds the path of that place.
Each problem belongs to one of eight categories, has a message, and may offer the offending value.
All wording of validation is here.
-/

namespace DataSchema

/-- Categories of problems. -/
inductive Category where
  | typeMismatch | missingRequired
  | outOfRange | patternMismatch | notInValidValues | unknownKey | duplicateKey | schemaError
deriving DecidableEq, Repr

namespace Category

def label : Category → String
  | .typeMismatch => "type mismatch"
  | .missingRequired => "missing required"
  | .outOfRange => "out of range"
  | .patternMismatch => "pattern mismatch"
  | .notInValidValues => "not in valid values"
  | .unknownKey => "unknown key"
  | .duplicateKey => "duplicate key"
  | .schemaError => "schema error"

/-- The label as one word. -/
def identifier (c : Category) : String :=
  String.ofList (c.label.toList.map fun ch => if ch = ' ' then '_' else ch)

end Category

/-- The largest integer of a 64-bit word with sign. -/
def largestInt : Int := (signedCount : Int) - 1

inductive Problem where
  /-- The instance is nested more deeply than the limit allows. -/
  | tooDeep (limit : Nat)
  | wrongKind (expected : Kind) (value : Document)
  | shortText (text : String) (min : Nat)
  | longText (text : String) (max : Nat)
  | patternMissed (text pattern : String)
  /-- The pattern of the node is not among the compiled ones. -/
  | patternUnknown (text pattern : String)
  | formatMissed (text format : String)
  /-- The format of the node is not registered. -/
  | formatUnknown (text format : String)
  | unlistedText (text : String) (listed : List String)
  /-- An integer beyond the words that bounds are written in. -/
  | hugeInt (value : Int)
  | lowInt (value min : Int)
  | highInt (value max : Int)
  | unlistedInt (value : Int) (listed : List Int)
  | unlistedBool (value : Bool) (listed : List Bool)
  | missingKey (key : String)
  | unknownKey (key : String) (suggestion : Option String) (value : Document)
  | shortList (count min : Nat)
  | longList (count max : Nat)
  /-- The primary key value of an element was used before, at index `first`. -/
  | repeatedKey (key : String) (first : Nat) (value : Document)
deriving DecidableEq

namespace Problem

def category : Problem → Category
  | .tooDeep _ | .patternUnknown .. | .formatUnknown .. => .schemaError
  | .wrongKind .. => .typeMismatch
  | .shortText .. | .longText ..
  | .hugeInt _ | .lowInt .. | .highInt .. | .shortList .. | .longList .. => .outOfRange
  | .patternMissed .. | .formatMissed .. => .patternMismatch
  | .unlistedText .. | .unlistedInt .. | .unlistedBool .. => .notInValidValues
  | .missingKey _ => .missingRequired
  | .unknownKey .. => .unknownKey
  | .repeatedKey .. => .duplicateKey

def message : Problem → String
  | .tooDeep limit => s!"Maximum nesting depth {limit} exceeded"
  | .wrongKind expected value => s!"Invalid type '{value.shape.name}'. Expected a '{expected.name}'"
  | .shortText text min => s!"The value '{text}' is shorter than min_length {min}"
  | .longText text max => s!"The value '{text}' is longer than max_length {max}"
  | .patternMissed text pattern => s!"The value '{text}' does not match the pattern '{pattern}'"
  | .patternUnknown _ pattern => s!"The pattern '{pattern}' was not compiled for this schema"
  | .formatMissed text format => s!"The value '{text}' is not a valid {format}"
  | .formatUnknown _ format => s!"Unknown format '{format}'"
  | .unlistedText text listed => s!"'{text}' is not one of {Text.shownList listed}"
  | .hugeInt value => s!"{value} is higher than the largest supported integer {largestInt}"
  | .lowInt value min => s!"{value} is lower than the allowed minimum {min}"
  | .highInt value max => s!"{value} is higher than the allowed maximum {max}"
  | .unlistedInt value listed => s!"{value} is not one of {Text.bracketed (listed.map toString)}"
  | .unlistedBool value listed => s!"{value} is not one of {Text.bracketed (listed.map toString)}"
  | .missingKey key => s!"Required key '{key}' is not set"
  | .unknownKey key none _ => s!"Unknown key '{key}'"
  | .unknownKey key (some suggestion) _ => s!"Unknown key '{key}'. Did you mean '{suggestion}'?"
  | .shortList count min => s!"The list has {count} items, fewer than min_length {min}"
  | .longList count max => s!"The list has {count} items, more than max_length {max}"
  | .repeatedKey key first value =>
    s!"The value {value.compact} of primary key '{key}' is already used at index {first}"

/-- The value to blame, where there is one. -/
def offending? : Problem → Option Document
  | .tooDeep _ | .missingKey _ | .shortList .. | .longList .. => none
  | .wrongKind _ value | .unknownKey _ _ value | .repeatedKey _ _ value => some value
  | .shortText text _
  | .longText text _ | .patternMissed text _ | .patternUnknown text _ | .formatMissed text _
  | .formatUnknown text _ | .unlistedText text _ => some (.string text)
  | .hugeInt value | .lowInt value _ | .highInt value _ | .unlistedInt value _ => some (.int value)
  | .unlistedBool value _ => some (.bool value)

end Problem

/-- A problem and the path of the place that has it. -/
structure Finding where
  path : Path
  problem : Problem
deriving DecidableEq

namespace Finding

/-- The finding as seen from one step above. -/
def below (segment : Segment) (finding : Finding) : Finding :=
  { finding with path := segment :: finding.path }

def text (finding : Finding) : String := s!"'{finding.path.text}': {finding.problem.message}"

end Finding

end DataSchema
