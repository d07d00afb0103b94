import DataSchema.Document.Token

/-!
# Numerals

Unsigned numerals are ASCII digits behind an optional plus sign; leading zeros are allowed.
Floats may begin with a sign and have a fraction and an exponent. Codes of characters are
written in hexadecimal digits.
-/

namespace DataSchema.Text

/-- A nonempty run of ASCII digits. -/
def isDigits (text : List Char) : Bool := !text.isEmpty && text.all Char.isDigit

/-- The value of an unsigned numeral. -/
def unsigned? (text : List Char) : Option Nat :=
  let digits := match text with
    | '+' :: rest => rest
    | text => text
  if isDigits digits then some (naturalValue digits) else none

/-- The double nearest to a decimal number without sign, which has at least one digit before or
after its point; nothing when it is too large. -/
def decimal? (negative : Bool) (text : List Char) : Option Binary64 := do
  let whole := text.takeWhile Char.isDigit
  let rest := text.dropWhile Char.isDigit
  let (fraction, rest) := match rest with
    | '.' :: rest => (rest.takeWhile Char.isDigit, rest.dropWhile Char.isDigit)
    | rest => ([], rest)
  if whole.isEmpty && fraction.isEmpty then none
  else
    let (exponent, rest) ← Token.scanExponent rest
    if rest.isEmpty then Binary64.ofDecimal? negative (naturalValue (whole ++ fraction)) (exponent -
      fraction.length) else none

def float? : List Char → Option Binary64
  | '-' :: body => decimal? true body
  | '+' :: body => decimal? false body
  | body => decimal? false body

/-- The character with a code in hexadecimal digits, unless the code is that of a
surrogate or too large. -/
def charOfCode? (digits : List Char) : Option Char := do
  let code ← digits.foldlM (fun value d => (hexValue? d).map (16 * value + ·)) 0
  if 0xD800 ≤ code ∧ code ≤ 0xDFFF ∨ 0x10FFFF < code then none else some (Char.ofNat code)

end DataSchema.Text
