/-!
# Sets and maps of characters by ranges

A character property is a list of disjoint ranges of code points in ascending order, so a look-up
stops at the first range that lies beyond the character. A case mapping is a list of strided ranges
that all move by the same distance.
-/

namespace DataSchema.Text

/-- Membership in an ascending list of closed ranges. -/
def inRanges : List (Nat × Nat) → Nat → Bool
  | [], _ => false
  | (low, high) :: rest, n => low ≤ n && (n ≤ high || inRanges rest n)

/-- The code points `first`, `first + step`, … up to `last`, each moved by `shift`. -/
structure Shift where
  first : Nat
  last : Nat
  step : Nat
  shift : Int

namespace Shift

def covers (s : Shift) (n : Nat) : Bool := s.first ≤ n && n ≤ s.last && (n - s.first) % s.step == 0

/-- The image of a code point under the first range that covers it. -/
def image? : List Shift → Nat → Option Nat
  | [], _ => none
  | s :: rest, n => if s.covers n then some ((n : Int) + s.shift).toNat else image? rest n

/-- All code points that the ranges move to the given one. -/
def sources (shifts : List Shift) (target : Nat) : List Nat :=
  shifts.filterMap fun s =>
    let n := ((target : Int) - s.shift).toNat
    if s.covers n && (n : Int) + s.shift == target then some n else none

end Shift

end DataSchema.Text
