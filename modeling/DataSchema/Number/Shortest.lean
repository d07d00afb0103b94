import DataSchema.Number.Binary64

/-!
# The shortest decimal text of a double

Among the decimals that lie closer to a double than to any of its neighbours, `shortest` takes one
with the fewest digits, and of those the one nearest to the double. The search runs over the
decimal grids from coarse to fine and compares exact naturals. `Binary64.text` then decides where
the point and the exponent stand.
-/

namespace DataSchema

/-- A positive decimal `0.d₁d₂… * 10 ^ (exponent + 1)`: its digits without trailing zeros and the
exponent of its first digit. -/
structure Decimal where
  digits : List Char
  exponent : Int
deriving DecidableEq

namespace Binary64

/-- The reals that round to a double, in units of `unit.1 / unit.2`: the double
itself, and the two ends. -/
structure RoundingInterval where
  value : Nat
  lower : Nat
  upper : Nat
  unit : Nat × Nat
  closed : Bool

def roundingInterval (x : Binary64) : RoundingInterval :=
  let m := x.significand
  let q := x.exponent - 2
  { value := 4 * m
    lower := if m = hiddenBit ∧ x.exponent > -1074 then 4 * m - 1 else 4 * m - 2
    upper := 4 * m + 2
    unit := if q ≥ 0 then (twoTo q.toNat, 1) else (1, twoTo (-q).toNat)
    closed := m % 2 = 0 }

/-- The exponent of the leading decimal digit of `num / den`. -/
def leadingExponent (num den : Nat) : Int :=
  let guess : Int := ((Nat.toDigits 10 num).length : Int) - ((Nat.toDigits 10 den).length : Int)
  let reached :=
    if guess ≥ 0 then num ≥ den * tenTo guess.toNat else num * tenTo (-guess).toNat ≥ den
  if reached then guess else guess - 1

/-- The multiple of `10 ^ grid` inside the interval that is nearest to the
double, if there is one. -/
def nearestOnGrid (i : RoundingInterval) (grid : Int) : Option Nat :=
  let up := if grid ≥ 0 then 1 else tenTo (-grid).toNat
  let down := if grid ≥ 0 then tenTo grid.toNat else 1
  let scale := i.unit.1 * up
  let step := i.unit.2 * down
  let value := i.value * scale
  let inside (c : Nat) : Bool :=
    if i.closed then i.lower * scale ≤ c * step && c * step ≤ i.upper * scale
    else i.lower * scale < c * step && c * step < i.upper * scale
  let floor := value / step
  let below := if floor > 0 && inside floor then some floor else none
  let above := if inside (floor + 1) then some (floor + 1) else none
  match below, above with
  | none, none => none
  | some c, none => some c
  | none, some c => some c
  | some a, some b =>
    let toBelow := value - a * step
    let toAbove := b * step - value
    if toBelow < toAbove then some a
    else if toAbove < toBelow then some b
    else if a % 2 = 0 then some a else some b

def ofDigits (c : Nat) (grid : Int) : Decimal :=
  let digits := Nat.toDigits 10 c
  { digits := (digits.reverse.dropWhile (· == '0')).reverse
    exponent := grid + (digits.length : Int) - 1 }

/-- The shortest decimal that reads back as the (nonzero, finite) double.
Seventeen digits always suffice. -/
def shortest (x : Binary64) : Decimal :=
  let i := x.roundingInterval
  let leading := leadingExponent (i.value * i.unit.1) i.unit.2
  let grids := (List.range 17).map fun (n : Nat) => leading - (n : Int)
  match grids.findSome? fun grid => (nearestOnGrid i grid).map (ofDigits · grid) with
  | some d => d
  | none => ⟨['0'], 0⟩

/-- Positional notation serves the exponents from -5 to 15, with `.0` after an integral value;
outside it the exponent follows `e+` or `e-`. -/
def positional (d : Decimal) : List Char :=
  let n : Int := d.digits.length
  if d.exponent < 0 then
    ['0', '.'] ++ List.replicate (-d.exponent - 1).toNat '0' ++ d.digits
  else if n ≤ d.exponent + 1 then
    d.digits ++ List.replicate (d.exponent + 1 - n).toNat '0' ++ ['.', '0']
  else
    d.digits.take (d.exponent + 1).toNat ++ ['.'] ++ d.digits.drop (d.exponent + 1).toNat

def mantissa : List Char → List Char
  | [] => []
  | [c] => [c]
  | c :: rest => c :: '.' :: rest

def scientific (d : Decimal) : List Char :=
  let power := Nat.toDigits 10 d.exponent.natAbs
  mantissa d.digits ++ (if d.exponent < 0 then ['e', '-'] else ['e', '+']) ++ power

def unsignedText (x : Binary64) : List Char :=
  if x.magnitude = 0 then ['0', '.', '0']
  else
    let d := x.shortest
    if -5 ≤ d.exponent ∧ d.exponent ≤ 15 then positional d else scientific d

/-- The text of a double in a document. -/
def text (x : Binary64) : List Char :=
  if x.isNegative then '-' :: x.unsignedText else x.unsignedText

end Binary64

end DataSchema
