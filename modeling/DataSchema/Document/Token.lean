import DataSchema.Number.Binary64

/-!
# Tokens of JSON text

`Token.scan` splits JSON text into tokens. A number is an integer when it is written without
fraction and exponent and lies between `-2 ^ 63` and `2 ^ 64 - 1`; every other number is a double.
Text that holds no number or string of JSON where one begins has no tokens.
-/

namespace DataSchema

inductive Token where
  | openArray | closeArray | openObject | closeObject | comma | colon
  | null
  | bool (value : Bool)
  | int (value : Int)
  | float (value : Binary64)
  | string (text : String)
deriving DecidableEq

namespace Text

def digitValue (c : Char) : Nat := c.toNat - '0'.toNat

/-- The number that a run of decimal digits denotes. -/
def naturalValue (digits : List Char) : Nat :=
  digits.foldl (fun n c => 10 * n + digitValue c) 0

def hexValue? (c : Char) : Option Nat :=
  if c.isDigit then some (digitValue c)
  else if 'a' ≤ c ∧ c ≤ 'f' then some (c.toNat - 'a'.toNat + 10)
  else if 'A' ≤ c ∧ c ≤ 'F' then some (c.toNat - 'A'.toNat + 10)
  else none

end Text

namespace Token

def isBlank (c : Char) : Bool := c = ' ' || c = '\n' || c = '\r' || c = '\t'

def escaped? : Char → Option Char
  | '"' => some '"'
  | '\\' => some '\\'
  | '/' => some '/'
  | 'b' => some '\x08'
  | 'f' => some '\x0c'
  | 'n' => some '\n'
  | 'r' => some '\r'
  | 't' => some '\t'
  | _ => none

def fourHex? (a b c d : Char) : Option Nat := do
  let w ← Text.hexValue? a
  let x ← Text.hexValue? b
  let y ← Text.hexValue? c
  let z ← Text.hexValue? d
  return ((w * 16 + x) * 16 + y) * 16 + z

/-- The rest of a string after its opening quote, read into `read` (in reverse): the string and
the text behind it. Two escapes of surrogates denote one character; a lone one is refused, as is a
bare control character. -/
def scanString : List Char → List Char → Option (String × List Char)
  | read, '"' :: rest => some (String.ofList read.reverse, rest)
  | read, '\\' :: 'u' :: a :: b :: c :: d :: '\\' :: 'u' :: e :: f :: g :: h :: rest => do
    let unit ← fourHex? a b c d
    if 0xD800 ≤ unit ∧ unit < 0xDC00 then
      let low ← fourHex? e f g h
      if 0xDC00 ≤ low ∧ low < 0xE000 then
        scanString (Char.ofNat (0x10000 + (unit - 0xD800) * 0x400 + (low - 0xDC00)) :: read) rest
      else none
    else if 0xDC00 ≤ unit ∧ unit < 0xE000 then none
    else scanString (Char.ofNat unit :: read) ('\\' :: 'u' :: e :: f :: g :: h :: rest)
  | read, '\\' :: 'u' :: a :: b :: c :: d :: rest => do
    let unit ← fourHex? a b c d
    if 0xD800 ≤ unit ∧ unit < 0xE000 then none
    else scanString (Char.ofNat unit :: read) rest
  | read, '\\' :: c :: rest => do
    let c ← escaped? c
    scanString (c :: read) rest
  | read, c :: rest => if c.val < 0x20 then none else scanString (c :: read) rest
  | _, [] => none

/-- The longest beginning of a run of digits that fits into 64 bits, and the digits left over. -/
def fittingDigits : Nat → List Char → Nat × List Char
  | value, [] => (value, [])
  | value, c :: rest =>
    let next := 10 * value + Text.digitValue c
    if next < wordCount then fittingDigits next rest else (value, c :: rest)

/-- The double of a decimal number. Significand and power of ten are each rounded to a double and
combined by one more rounding; digits that do not fit into 64 bits only move the exponent. -/
def decimal? (negative : Bool) (whole fraction : List Char) (exponent : Int) : Option Binary64 := do
  let (head, dropped) := fittingDigits 0 whole
  let (significand, unused) :=
    if dropped.isEmpty then fittingDigits head fraction else (head, fraction)
  let power := exponent + dropped.length - ((fraction.length : Int) - unused.length)
  let m ← Binary64.ofDecimal? negative significand 0
  if significand = 0 then return m
  else if power.natAbs ≤ 308 then
    let ten ← Binary64.ofDecimal? false 1 power.natAbs
    if power ≥ 0 then m.mul? ten else m.div? ten
  else if power ≥ 0 then none
  else
    let large ← Binary64.ofDecimal? false 1 308
    let reduced ← m.div? large
    if power.natAbs ≤ 616 then
      let ten ← Binary64.ofDecimal? false 1 (power.natAbs - 308)
      reduced.div? ten
    else return Binary64.ofMagnitude negative 0

/-- The parts of a number's text behind its digits: sign and digits of the exponent. -/
def scanExponent : List Char → Option (Int × List Char)
  | c :: rest =>
    if c = 'e' ∨ c = 'E' then
      let (sign, body) : Int × List Char := match rest with
        | '-' :: body => (-1, body)
        | '+' :: body => (1, body)
        | body => (1, body)
      let digits := body.takeWhile Char.isDigit
      if digits.isEmpty then none else some (sign * Text.naturalValue digits,
        body.dropWhile Char.isDigit)
    else some (0, c :: rest)
  | [] => some (0, [])

def scanNumber (text : List Char) : Option (Token × List Char) := do
  let (negative, body) := match text with
    | '-' :: body => (true, body)
    | body => (false, body)
  let whole := body.takeWhile Char.isDigit
  let rest := body.dropWhile Char.isDigit
  if whole.isEmpty then none
  else if whole.head? = some '0' ∧ whole.length > 1 then none
  else
    let (fraction, rest) := match rest with
      | '.' :: rest => (some (rest.takeWhile Char.isDigit), rest.dropWhile Char.isDigit)
      | rest => (none, rest)
    if fraction = some [] then none
    else
      let (exponent, after) ← scanExponent rest
      let value := Text.naturalValue whole
      if fraction = none ∧ after.length = rest.length ∧ !(negative && value == 0)
          ∧ (if negative then value ≤ signedCount else value < wordCount) then
        return (.int (if negative then -(value : Int) else value), after)
      else
        let x ← decimal? negative whole (fraction.getD []) exponent
        return (.float x, after)

/-- The first token of a text that does not start with a blank, and the text behind it. -/
def scanOne : List Char → Option (Token × List Char)
  | '[' :: rest => some (.openArray, rest)
  | ']' :: rest => some (.closeArray, rest)
  | '\x7b' :: rest => some (.openObject, rest)
  | '\x7d' :: rest => some (.closeObject, rest)
  | ',' :: rest => some (.comma, rest)
  | ':' :: rest => some (.colon, rest)
  | '"' :: rest => (scanString [] rest).map fun (text, rest) => (.string text, rest)
  | 'n' :: 'u' :: 'l' :: 'l' :: rest => some (.null, rest)
  | 't' :: 'r' :: 'u' :: 'e' :: rest => some (.bool true, rest)
  | 'f' :: 'a' :: 'l' :: 's' :: 'e' :: rest => some (.bool false, rest)
  | text => scanNumber text

/-- The tokens of a text; nothing when some part of it is no token. Every token takes at least one
character, so `room` steps suffice for a text of that length. -/
def scanWithin : Nat → List Char → Option (List Token)
  | 0, text => if text.isEmpty then some [] else none
  | room + 1, text => match text with
    | [] => some []
    | c :: rest =>
      if isBlank c then scanWithin room rest
      else do
        let (token, rest) ← scanOne (c :: rest)
        let tokens ← scanWithin room rest
        return token :: tokens

def scan (text : List Char) : Option (List Token) := scanWithin text.length text

end Token

end DataSchema
