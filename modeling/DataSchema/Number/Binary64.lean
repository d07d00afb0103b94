import DataSchema.Number.Word

/-!
# Doubles as bit patterns

A double is kept as its 64 bits, so two doubles are equal when they are the same double and the two
zeros stay apart. The module decodes a pattern into `significand * 2 ^ exponent`, rounds a quotient
of naturals to the nearest double with ties to even, and multiplies and divides by way of exact
rationals. Nothing here uses machine floating point.
-/

namespace DataSchema

/-- A double given by its bit pattern. -/
structure Binary64 where
  bits : UInt64
deriving DecidableEq, Inhabited

namespace Binary64

/-- The leading bit of a normal significand, which the pattern does not
hold: the 52nd power of two. -/
def hiddenBit : Nat := 0x10000000000000

def isNegative (x : Binary64) : Bool := x.bits.toNat ≥ signedCount

/-- The bit pattern without its sign. -/
def magnitude (x : Binary64) : Nat := x.bits.toNat % signedCount

/-- Infinities and not-a-number patterns share the largest biased exponent. -/
def isFinite (x : Binary64) : Bool := x.magnitude < 0x7FF0000000000000

/-- The integer `m` of `m * 2 ^ q`, hidden bit included. -/
def significand (x : Binary64) : Nat :=
  let biased : Nat := x.magnitude / hiddenBit
  let fraction := x.magnitude % hiddenBit
  if biased = 0 then fraction else hiddenBit + fraction

/-- The `q` of `m * 2 ^ q`; subnormals share the exponent of the smallest normal doubles. -/
def exponent (x : Binary64) : Int :=
  let biased : Nat := x.magnitude / hiddenBit
  (if biased = 0 then 1 else (biased : Int)) - 1075

/-- The absolute value as a quotient of naturals. -/
def ratio (x : Binary64) : Nat × Nat :=
  if x.exponent ≥ 0 then (x.significand * twoTo x.exponent.toNat, 1)
  else (x.significand, twoTo (-x.exponent).toNat)

def ofMagnitude (negative : Bool) (magnitude : Nat) : Binary64 :=
  ⟨UInt64.ofNat (if negative then signedCount + magnitude else magnitude)⟩

/-- Whether `num / den < 2 ^ e`. -/
def ratioBelow (num den : Nat) (e : Int) : Bool :=
  if e ≥ 0 then num < den * twoTo e.toNat else num * twoTo (-e).toNat < den

/-- The exponent of the grid of doubles around `num / den`: 53 significant bits, but never finer
than the subnormal grid. -/
def gridExponent (num den : Nat) : Int :=
  let guess : Int := (Nat.log2 num : Int) - (Nat.log2 den : Int)
  let leading := if ratioBelow num den guess then guess - 1 else guess
  max (leading - 52) (-1074)

/-- The natural number nearest to `num / den`, a half going to the even neighbour. -/
def roundHalfEven (num den : Nat) : Nat :=
  let quotient := num / den
  let twice := 2 * (num % den)
  if twice > den || (twice == den && quotient % 2 == 1) then quotient + 1 else quotient

/-- The double nearest to `num / den` with the given sign, ties to even; nothing when it is beyond
the largest finite double. -/
def ofRatio? (negative : Bool) (num den : Nat) : Option Binary64 :=
  if num = 0 then some (ofMagnitude negative 0)
  else
    let q := gridExponent num den
    let m := if q ≥ 0 then roundHalfEven num (den * twoTo q.toNat)
      else roundHalfEven (num * twoTo (-q).toNat) den
    let magnitude := (q + 1074).toNat * hiddenBit + m
    if magnitude < 0x7FF0000000000000 then some (ofMagnitude negative magnitude) else none

def mul? (x y : Binary64) : Option Binary64 :=
  let a := x.ratio
  let b := y.ratio
  ofRatio? (x.isNegative != y.isNegative) (a.1 * b.1) (a.2 * b.2)

def div? (x y : Binary64) : Option Binary64 :=
  let a := x.ratio
  let b := y.ratio
  if b.1 = 0 then none else ofRatio? (x.isNegative != y.isNegative) (a.1 * b.2) (a.2 * b.1)

/-- The double nearest to `significand * 10 ^ exponent`. Beyond `10 ^ 400` and below `10 ^ -800` the
answer is settled by the exponent alone, so that no huge power is computed. -/
def ofDecimal? (negative : Bool) (significand : Nat) (exponent : Int) : Option Binary64 :=
  if significand = 0 then some (ofMagnitude negative 0)
  else if exponent ≥ 0 then
    if exponent > 400 then none else ofRatio? negative (significand * tenTo exponent.toNat) 1
  else if exponent < -800 - (Nat.log2 significand : Int) then some (ofMagnitude negative 0)
  else ofRatio? negative significand (tenTo (-exponent).toNat)

end Binary64

end DataSchema
