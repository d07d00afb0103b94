import Mathlib.Data.Rat.Cast.Order
import Mathlib.Algebra.Order.Field.Power
import Mathlib.Tactic.Linarith
import Mathlib.Tactic.NormNum
import Mathlib.Tactic.Ring
import DataSchema.Number.Shortest

/-!
# Where doubles lie between their neighbours

The numbers that round to a double form an interval: it begins where the interval of the double
before ends, and ends where that of the next one begins. The ends themselves belong to the double
whose significand is even, and neighbours are never both even. So no number rounds to two doubles.
The doubles are counted by their bit patterns without sign.
-/

namespace DataSchema.Binary64

/-! ### The ends of the intervals -/

/-- The significand of a bit pattern without sign. -/
def significandAt (magnitude : Nat) : Nat :=
  if magnitude / hiddenBit = 0 then magnitude % hiddenBit else hiddenBit + magnitude % hiddenBit

def exponentAt (magnitude : Nat) : Int :=
  (if magnitude / hiddenBit = 0 then 1 else ((magnitude / hiddenBit : Nat) : Int)) - 1075

/-- The lower end in quarters of the last place of the significand. Below a power of two the
doubles lie twice as close. -/
def lowerAt (magnitude : Nat) : Nat :=
  if significandAt magnitude = hiddenBit ∧ exponentAt magnitude > -1074 then
    4 * significandAt magnitude - 1
  else 4 * significandAt magnitude - 2

/-- A quarter of the last place of the significand. -/
def quarter (magnitude : Nat) : ℚ := 2 ^ (exponentAt magnitude - 2)

def lowerEnd (magnitude : Nat) : ℚ := lowerAt magnitude * quarter magnitude

def upperEnd (magnitude : Nat) : ℚ := (4 * significandAt magnitude + 2 : Nat) * quarter magnitude

theorem quarter_pos (magnitude : Nat) : 0 < quarter magnitude := by
  unfold quarter
  positivity

theorem significandAt_pos {magnitude : Nat} (h : magnitude ≠ 0) : 0 < significandAt magnitude := by
  unfold significandAt hiddenBit
  split <;> omega

theorem significandAt_lt (magnitude : Nat) : significandAt magnitude < 2 * hiddenBit := by
  have hmod := Nat.mod_lt magnitude (show 0 < hiddenBit by decide)
  unfold significandAt
  split <;> omega

theorem significandAt_mod_two (magnitude : Nat) : significandAt magnitude % 2 = magnitude % 2 := by
  unfold significandAt hiddenBit
  split <;> omega

theorem lowerAt_pos {magnitude : Nat} (h : magnitude ≠ 0) : 0 < lowerAt magnitude := by
  have hsignificand := significandAt_pos h
  unfold lowerAt
  split <;> omega

/-- Inside a run of equal exponents the next double has the next significand. -/
theorem succ_of_mod_ne {magnitude : Nat} (h : magnitude % hiddenBit + 1 ≠ hiddenBit) :
    significandAt (magnitude + 1) = significandAt magnitude + 1 ∧
    exponentAt (magnitude + 1) = exponentAt magnitude ∧
    significandAt (magnitude + 1) ≠ hiddenBit := by
  have hfraction := Nat.mod_lt magnitude (show 0 < hiddenBit by decide)
  have hdiv : (magnitude + 1) / hiddenBit = magnitude / hiddenBit := by
    unfold hiddenBit at *
    omega
  have hmod : (magnitude + 1) % hiddenBit = magnitude % hiddenBit + 1 := by
    unfold hiddenBit at *
    omega
  rw [significandAt, significandAt, exponentAt, exponentAt, hdiv, hmod]
  refine ⟨?_, rfl, ?_⟩ <;> split <;> omega

theorem succ_of_mod_eq {magnitude : Nat} (h : magnitude % hiddenBit + 1 = hiddenBit) :
    significandAt (magnitude + 1) = hiddenBit ∧ exponentAt (magnitude + 1) =
      (magnitude / hiddenBit : Nat) - 1074 := by
  have hdiv : (magnitude + 1) / hiddenBit = magnitude / hiddenBit + 1 := by
    unfold hiddenBit at *
    omega
  have hmod : (magnitude + 1) % hiddenBit = 0 := by
    unfold hiddenBit at *
    omega
  rw [significandAt, exponentAt, hdiv, hmod, if_neg (Nat.succ_ne_zero _),
    if_neg (Nat.succ_ne_zero _)]
  exact ⟨Nat.add_zero _, by omega⟩

/-- The intervals of neighbours touch. -/
theorem upperEnd_eq_lowerEnd_succ (magnitude : Nat) :
    upperEnd magnitude = lowerEnd (magnitude + 1) := by
  rw [upperEnd, lowerEnd, quarter, quarter]
  by_cases hfull : magnitude % hiddenBit + 1 = hiddenBit
  · obtain ⟨hsignificand, hexponent⟩ := succ_of_mod_eq hfull
    by_cases hsubnormal : magnitude / hiddenBit = 0
    · -- The least normal double lies as far from the greatest subnormal one as the subnormal ones
      -- from each other.
      have hlast : significandAt magnitude = hiddenBit - 1 := by
        rw [significandAt, if_pos hsubnormal]
        omega
      have hsame : exponentAt magnitude = exponentAt (magnitude + 1) := by
        rw [hexponent, exponentAt, hsubnormal, if_pos rfl]
        rfl
      have hlower : lowerAt (magnitude + 1) = 4 * hiddenBit - 2 := by
        rw [lowerAt, hexponent, hsubnormal, hsignificand, if_neg (by simp)]
      rw [hsame, hlast, hlower]
      rfl
    · have hlast : significandAt magnitude = 2 * hiddenBit - 1 := by
        rw [significandAt, if_neg hsubnormal]
        omega
      have hnext : exponentAt (magnitude + 1) - 2 = (exponentAt magnitude - 2) + 1 := by
        rw [hexponent, exponentAt, if_neg hsubnormal]
        omega
      have hnormal : exponentAt (magnitude + 1) > -1074 := by
        rw [hexponent]
        generalize magnitude / hiddenBit = biased at hsubnormal ⊢
        omega
      have hlower : lowerAt (magnitude + 1) = 4 * hiddenBit - 1 := by
        rw [lowerAt, hsignificand, if_pos ⟨rfl, hnormal⟩]
      have hends : ((4 * (2 * hiddenBit - 1) + 2 : Nat) : ℚ) = (4 * hiddenBit - 1 : Nat) * 2 := by
        norm_num [hiddenBit]
      rw [hnext, hlast, hlower, zpow_add_one₀ (by norm_num), hends]
      ring
  · obtain ⟨hsignificand, hexponent, hnot⟩ := succ_of_mod_ne hfull
    have hlower : lowerAt (magnitude + 1) = 4 * significandAt magnitude + 2 := by
      rw [lowerAt, if_neg fun h => hnot h.1, hsignificand]
      omega
    rw [hexponent, hlower]

theorem lowerEnd_lt_upperEnd (magnitude : Nat) : lowerEnd magnitude < upperEnd magnitude := by
  refine mul_lt_mul_of_pos_right (Nat.cast_lt.2 ?_) (quarter_pos magnitude)
  unfold lowerAt
  split <;> omega

theorem lowerEnd_strictMono : StrictMono lowerEnd :=
  strictMono_nat_of_lt_succ fun magnitude =>
    upperEnd_eq_lowerEnd_succ magnitude ▸ lowerEnd_lt_upperEnd magnitude

/-- The number rounds to the double of the bit pattern. -/
def RoundsTo (value : ℚ) (magnitude : Nat) : Prop :=
  lowerEnd magnitude ≤ value ∧ value ≤ upperEnd magnitude ∧
    (magnitude % 2 = 1 → lowerEnd magnitude < value ∧ value < upperEnd magnitude)

theorem RoundsTo.pos {value : ℚ} {magnitude : Nat} (h : RoundsTo value magnitude)
    (hne : magnitude ≠ 0) : 0 < value :=
  (mul_pos (Nat.cast_pos.2 (lowerAt_pos hne)) (quarter_pos magnitude)).trans_le h.1

theorem roundsTo_zero : RoundsTo 0 0 := by
  have hlower : lowerEnd 0 = 0 := by
    rw [lowerEnd, show lowerAt 0 = 0 from rfl, Nat.cast_zero, zero_mul]
  exact ⟨hlower.le, hlower ▸ (lowerEnd_lt_upperEnd 0).le, nofun⟩

theorem RoundsTo.not_lt {value : ℚ} {first second : Nat} (hfirst : RoundsTo value first)
    (hsecond : RoundsTo value second) : ¬ first < second := by
  intro hlt
  obtain ⟨-, hupper, hopen⟩ := hfirst
  obtain ⟨hlower, -, hopen'⟩ := hsecond
  rw [upperEnd_eq_lowerEnd_succ] at hupper hopen
  rcases Nat.lt_or_eq_of_le (Nat.succ_le_of_lt hlt) with hgap | rfl
  · have hbetween := lowerEnd_strictMono hgap
    exact absurd (hlower.trans hupper) (not_le.2 hbetween)
  · -- One of two neighbours is odd and does not own the end where they touch.
    rcases Nat.mod_two_eq_zero_or_one first with heven | hodd
    · exact absurd hupper (not_le.2 (hopen' (by omega)).1)
    · exact absurd hlower (not_le.2 (hopen hodd).2)

/-- No number rounds to two doubles. -/
theorem RoundsTo.unique {value : ℚ} {first second : Nat} (hfirst : RoundsTo value first)
    (hsecond : RoundsTo value second) : first = second :=
  Nat.le_antisymm (Nat.le_of_not_lt (hsecond.not_lt hfirst))
    (Nat.le_of_not_lt (hfirst.not_lt hsecond))

end DataSchema.Binary64
