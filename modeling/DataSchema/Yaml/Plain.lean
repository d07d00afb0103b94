import DataSchema.Document.Basic
import DataSchema.Text.Numeral

/-!
# Plain scalars of YAML

A scalar without quotes is null, a boolean, an integer, a float or text, and only its spelling
decides. Integers may be written in base 16, 8 and 2 behind `0x`, `0o` and `0b`. Decimal digits
behind a superfluous zero are text. An integer of more than 64 bits is no document, unless it has
more than 128 bits and is read as a float.
-/

namespace DataSchema.Yaml

/-- The text without one leading sign. -/
def unsignedPart : List Char → List Char
  | '+' :: rest => rest
  | '-' :: rest => rest
  | text => text

/-- Decimal digits that begin with a superfluous zero. -/
def isZeroLed (text : List Char) : Bool :=
  match unsignedPart text with
  | '0' :: c :: rest => (c :: rest).all Char.isDigit
  | _ => false

/-- The value of a nonempty run of digits in a base up to sixteen. -/
def digitsIn? (base : Nat) (digits : List Char) : Option Nat :=
  if digits.isEmpty then none
  else digits.foldlM (fun value c => (Text.hexValue? c).bind fun d => if d < base then
    some (base * value + d) else none) 0

/-- The value of an integer without sign; `text` is what the scalar says, sign included. -/
def magnitude? (text body : List Char) : Option Nat :=
  let based := match body with
    | '0' :: 'x' :: digits => digitsIn? 16 digits
    | '0' :: 'o' :: digits => digitsIn? 8 digits
    | '0' :: 'b' :: digits => digitsIn? 2 digits
    | _ => none
  match based with
  | some value => some value
  | none => if isZeroLed text then none else digitsIn? 10 body

def integer? (text : List Char) : Option Int :=
  match text with
  | '-' :: body => (magnitude? text body).map fun n => -(n : Int)
  | '+' :: body => (magnitude? text body).map Int.ofNat
  | body => (magnitude? text body).map Int.ofNat

def float? (text : List Char) : Option Binary64 := if isZeroLed text then none else Text.float? text

def nullNames : List String := ["", "~", "null", "Null", "NULL"]

def trueNames : List String := ["true", "True", "TRUE"]

def falseNames : List String := ["false", "False", "FALSE"]

/-- Infinities and not-a-number. Documents have no such numbers, so these scalars are null. -/
def unboundedNames : List String :=
  [".inf", ".Inf", ".INF", "+.inf", "+.Inf", "+.INF", "-.inf", "-.Inf", "-.INF", ".nan",
    ".NaN", ".NAN"]

/-- A float or, failing that, text. -/
def floatOrText (text : List Char) : Document :=
  match float? text with
  | some x => .float x
  | none => .string (String.ofList text)

/-- What a plain scalar denotes; nothing for an integer that no document can hold. -/
def ofPlain? (text : List Char) : Option Document :=
  let name := String.ofList text
  if nullNames.contains name || unboundedNames.contains name then some .null
  else if trueNames.contains name then some (.bool true)
  else if falseNames.contains name then some (.bool false)
  else match integer? text with
    | some value =>
      if -(signedCount : Int) ≤ value ∧ value < wordCount then some (.int value)
      else if -(twoTo 127 : Int) ≤ value ∧ value < twoTo 128 then none
      else some (floatOrText text)
    | none => some (floatOrText text)

/-- Whether a plain scalar is the text that it shows. Digits behind a superfluous zero are not
counted, since not every reader takes them for text. -/
def isPlainText (text : List Char) : Bool :=
  match ofPlain? text with
  | some (.string _) => !isZeroLed text
  | _ => false

end DataSchema.Yaml
