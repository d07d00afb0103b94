import DataSchema.Document.Basic
import DataSchema.Document.Token

/-!
# Reading JSON

A document is read from its tokens by a machine with a stack of open containers, one token at a
time. A key that is repeated keeps its first place and takes its last value. The reader can be told
how many containers may be open at once.
-/

namespace DataSchema

namespace Document

/-- A container whose end is still to come. -/
inductive Frame where
  | array (elements : List Document)
  | object (entries : Entries Document) (key : String)

/-- What may come next. -/
inductive Expect where
  | value
  | elementOrEnd
  | keyOrEnd
  | key
  | colon
  | commaOrEnd
  | done (document : Document)

structure Reading where
  frames : List Frame
  expect : Expect

namespace Reading

/-- Hands a finished value to the innermost open container. -/
def accept (value : Document) : List Frame → Reading
  | [] => ⟨[], .done value⟩
  | .array elements :: frames => ⟨.array (value :: elements) :: frames, .commaOrEnd⟩
  | .object entries key :: frames => ⟨.object (entries.insert key value) key :: frames, .commaOrEnd⟩

def scalar? : Token → Option Document
  | .null => some .null
  | .bool b => some (.bool b)
  | .int i => some (.int i)
  | .float x => some (.float x)
  | .string s => some (.string s)
  | _ => none

/-- Reads the beginning of a value. -/
def begin (limit : Option Nat) (token : Token) (frames : List Frame) : Option Reading :=
  let fits : Bool := match limit with
    | some limit => decide (frames.length < limit)
    | none => true
  match token with
  | .openArray => if fits then some ⟨.array [] :: frames, .elementOrEnd⟩ else none
  | .openObject => if fits then some ⟨.object [] "" :: frames, .keyOrEnd⟩ else none
  | token => (scalar? token).map (accept · frames)

def step (limit : Option Nat) (reading : Reading) (token : Token) : Option Reading :=
  match reading.expect, token, reading.frames with
  | .value, token, frames => begin limit token frames
  | .elementOrEnd, .closeArray, .array elements :: frames =>
    some (accept (.array elements.reverse) frames)
  | .elementOrEnd, token, frames => begin limit token frames
  | .keyOrEnd, .closeObject, .object entries _ :: frames => some (accept (.object entries) frames)
  | .keyOrEnd, .string key, .object entries _ :: frames =>
    some ⟨.object entries key :: frames, .colon⟩
  | .key, .string key, .object entries _ :: frames => some ⟨.object entries key :: frames, .colon⟩
  | .colon, .colon, frames => some ⟨frames, .value⟩
  | .commaOrEnd, .comma, .array elements :: frames => some ⟨.array elements :: frames, .value⟩
  | .commaOrEnd, .comma, .object entries key :: frames => some ⟨.object entries key :: frames, .key⟩
  | .commaOrEnd, .closeArray, .array elements :: frames =>
    some (accept (.array elements.reverse) frames)
  | .commaOrEnd, .closeObject, .object entries _ :: frames => some (accept (.object entries) frames)
  | _, _, _ => none

end Reading

/-- The document of a token list. -/
def ofTokens? (limit : Option Nat) (tokens : List Token) : Option Document := do
  let reading ← tokens.foldlM (Reading.step limit) ⟨[], .value⟩
  match reading.expect with
  | .done document => some document
  | _ => none

/-- Reads JSON text of any nesting. -/
def ofJson? (text : String) : Option Document := do
  let tokens ← Token.scan text.toList
  ofTokens? none tokens

/-- Reads JSON text in which at most `limit` containers are open at once. -/
def ofJsonWithin? (limit : Nat) (text : String) : Option Document := do
  let tokens ← Token.scan text.toList
  ofTokens? (some limit) tokens

end Document

end DataSchema
