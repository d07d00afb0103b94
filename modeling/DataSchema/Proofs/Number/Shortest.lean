import Mathlib.Tactic.FieldSimp
import DataSchema.Proofs.Number.Rounding

/-!
# The shortest decimal rounds to its double

The search for the shortest decimal goes through grids of decimals, and it takes a decimal only
inside the rounding interval. The finest grid has sixteen places behind the leading one, and its
decimals are closer to each other than the ends of the interval, so the search always finds one. The
search compares naturals; here they are read as rationals.
-/

namespace DataSchema.Binary64

/-! ### Decimals on a grid -/

namespace RoundingInterval

variable {i : RoundingInterval} {grid : Int} {c : Nat}

def scale (i : RoundingInterval) (grid : Int) : Nat :=
  i.unit.1 * if grid ≥ 0 then 1 else tenTo (-grid).toNat

def step (i : RoundingInterval) (grid : Int) : Nat :=
  i.unit.2 * if grid ≥ 0 then tenTo grid.toNat else 1

/-- The multiple `c * 10 ^ grid` lies in the interval. -/
def holds (i : RoundingInterval) (grid : Int) (c : Nat) : Bool :=
  if i.closed then i.lower * i.scale grid ≤ c * i.step grid &&
    c * i.step grid ≤ i.upper * i.scale grid
  else i.lower * i.scale grid < c * i.step grid && c * i.step grid < i.upper * i.scale grid

theorem nearestOnGrid_eq (i : RoundingInterval) (grid : Int) : nearestOnGrid i grid =
    let floor := i.value * i.scale grid / i.step grid
    match if floor > 0 && i.holds grid floor then some floor else none,
      if i.holds grid (floor + 1) then some (floor + 1) else none with
    | none, none => none
    | some c, none => some c
    | none, some c => some c
    | some a, some b =>
      let toBelow := i.value * i.scale grid - a * i.step grid
      let toAbove := b * i.step grid - i.value * i.scale grid
      if toBelow < toAbove then some a
      else if toAbove < toBelow then some b
      else if a % 2 = 0 then some a else some b := rfl

theorem holds_of_nearestOnGrid (h : nearestOnGrid i grid = some c) : i.holds grid c = true := by
  rw [nearestOnGrid_eq] at h
  grind

theorem not_holds_of_nearestOnGrid_eq_none (h : nearestOnGrid i grid = none) :
    ¬ (i.value * i.scale grid / i.step grid > 0 ∧
      i.holds grid (i.value * i.scale grid / i.step grid) = true) ∧
    ¬ i.holds grid (i.value * i.scale grid / i.step grid + 1) = true := by
  rw [nearestOnGrid_eq] at h
  grind

/-- A grid finer than the interval has a multiple in it. -/
theorem exists_nearestOnGrid (hstep : 0 < i.step grid)
    (hlower : i.lower * i.scale grid < i.value * i.scale grid)
    (hupper : i.value * i.scale grid < i.upper * i.scale grid)
    (hfine : i.lower * i.scale grid + i.step grid < i.upper * i.scale grid) :
    ∃ c, nearestOnGrid i grid = some c := by
  by_contra hnone
  obtain ⟨hbelow, habove⟩ :=
    not_holds_of_nearestOnGrid_eq_none (Option.eq_none_iff_forall_ne_some.2 (not_exists.1 hnone))
  have hstrict : ∀ c, i.lower * i.scale grid < c * i.step grid →
      c * i.step grid < i.upper * i.scale grid →
      i.holds grid c = true := by
    intro c hlow hhigh
    unfold holds
    split <;> simp <;> omega
  have hfloor := Nat.div_mul_le_self (i.value * i.scale grid) (i.step grid)
  have hnext := Nat.lt_div_mul_add (a := i.value * i.scale grid) hstep
  generalize i.value * i.scale grid / i.step grid = floor at *
  have hsucc : (floor + 1) * i.step grid = floor * i.step grid + i.step grid := Nat.succ_mul _ _
  rcases Nat.lt_or_ge (i.lower * i.scale grid) (floor * i.step grid) with hinside | houtside
  · refine hbelow ⟨Nat.pos_of_ne_zero ?_, hstrict floor hinside (by omega)⟩
    rintro rfl
    omega
  · exact habove (hstrict (floor + 1) (by omega) (by omega))

end RoundingInterval

/-! ### The units of the comparison -/

variable {x : Binary64} {grid : Int} {c : Nat}

/-- A power on one side of a comparison stands there as it is, or its inverse on the other side. -/
theorem power_eq (base : Nat) (hbase : (base : ℚ) ≠ 0) (exponent : Int) :
    ((if exponent ≥ 0 then base ^ exponent.toNat else 1 : Nat) : ℚ) =
      (base : ℚ) ^ exponent * ((if exponent ≥ 0 then 1
        else base ^ (-exponent).toNat : Nat) : ℚ) := by
  split
  · rename_i h
    push_cast
    rw [mul_one, ← zpow_natCast, Int.toNat_of_nonneg h]
  · rename_i h
    push_cast
    rw [← zpow_natCast, Int.toNat_of_nonneg (by omega), ← zpow_add₀ hbase,
      add_neg_cancel, zpow_zero]

theorem power_pos {base : Nat} (hbase : 0 < base) (exponent : Int) :
    0 < if exponent ≥ 0 then 1 else base ^ (-exponent).toNat := by
  split
  · exact Nat.one_pos
  · exact Nat.pow_pos hbase

/-- The naturals that are compared are quarters and decimals in one unit. -/
theorem exists_unit (x : Binary64) (grid : Int) : ∃ unit : ℚ, 0 < unit ∧
    (x.roundingInterval.scale grid : ℚ) = quarter x.magnitude * unit ∧
    (x.roundingInterval.step grid : ℚ) = 10 ^ grid * unit ∧ 0 < x.roundingInterval.unit.2 ∧
    (x.roundingInterval.unit.1 : ℚ) = quarter x.magnitude * x.roundingInterval.unit.2 := by
  have hunit : x.roundingInterval.unit =
      (if x.exponent - 2 ≥ 0 then 2 ^ (x.exponent - 2).toNat else 1,
      if x.exponent - 2 ≥ 0 then 1 else 2 ^ (-(x.exponent - 2)).toNat) := by
    unfold roundingInterval
    dsimp only
    split <;> rfl
  have htwo := power_eq 2 (by norm_num) (x.exponent - 2)
  have hten := power_eq 10 (by norm_num) grid
  have hquarter : quarter x.magnitude = ((2 : Nat) : ℚ) ^ (x.exponent - 2) := rfl
  have htwoPos : 0 < if x.exponent - 2 ≥ 0 then 1 else 2 ^ (-(x.exponent - 2)).toNat :=
    power_pos (by decide) _
  have htenPos : 0 < if grid ≥ 0 then 1 else 10 ^ (-grid).toNat := power_pos (by decide) _
  refine ⟨_, mul_pos (Nat.cast_pos.2 htwoPos) (Nat.cast_pos.2 htenPos), ?_, ?_, ?_, ?_⟩
  · rw [RoundingInterval.scale, hunit, Nat.cast_mul, hquarter, ← mul_assoc, ← htwo]
    rfl
  · rw [RoundingInterval.step, hunit, Nat.cast_mul, mul_left_comm]
    exact congrArg _ hten
  · rw [hunit]
    exact htwoPos
  · rw [hunit]
    exact hquarter ▸ htwo

theorem roundsTo_of_nearestOnGrid (h : nearestOnGrid x.roundingInterval grid = some c) :
    RoundsTo (c * 10 ^ grid) x.magnitude := by
  obtain ⟨unit, hunit, hscale, hstep, -, -⟩ := exists_unit x grid
  have hholds := RoundingInterval.holds_of_nearestOnGrid h
  have hle : ∀ {a b : ℚ}, a * unit ≤ b * unit ↔ a ≤ b := mul_le_mul_iff_left₀ hunit
  have hlt : ∀ {a b : ℚ}, a * unit < b * unit ↔ a < b := mul_lt_mul_iff_left₀ hunit
  have hvalue : ((c * x.roundingInterval.step grid : Nat) : ℚ) = c * 10 ^ grid * unit := by
    rw [Nat.cast_mul, hstep, mul_assoc]
  have hlower : ((x.roundingInterval.lower * x.roundingInterval.scale grid : Nat) : ℚ) =
      lowerEnd x.magnitude * unit := by
    rw [Nat.cast_mul, hscale, lowerEnd, mul_assoc]
    rfl
  have hupper : ((x.roundingInterval.upper * x.roundingInterval.scale grid : Nat) : ℚ) =
      upperEnd x.magnitude * unit := by
    rw [Nat.cast_mul, hscale, upperEnd, mul_assoc]
    rfl
  have hclosed : x.roundingInterval.closed = decide (significandAt x.magnitude % 2 = 0) := rfl
  rw [significandAt_mod_two] at hclosed
  unfold RoundingInterval.holds at hholds
  split at hholds
  · rename_i heven
    rw [Bool.and_eq_true, decide_eq_true_eq, decide_eq_true_eq] at hholds
    refine ⟨?_, ?_, fun hodd => ?_⟩
    · rw [← hle, ← hlower, ← hvalue]
      exact Nat.cast_le.2 hholds.1
    · rw [← hle, ← hupper, ← hvalue]
      exact Nat.cast_le.2 hholds.2
    · rw [hclosed, decide_eq_true_eq] at heven
      omega
  · rw [Bool.and_eq_true, decide_eq_true_eq, decide_eq_true_eq] at hholds
    have hinside : lowerEnd x.magnitude < c * 10 ^ grid ∧ c * 10 ^ grid < upperEnd x.magnitude := by
      rw [← hlt, ← hlower, ← hvalue, ← hlt (a := _ * _), ← hupper, ← hvalue]
      exact ⟨Nat.cast_lt.2 hholds.1, Nat.cast_lt.2 hholds.2⟩
    exact ⟨hinside.1.le, hinside.2.le, fun _ => hinside⟩

/-! ### The search finds a decimal -/

theorem pow_le_of_length_toDigits {n : Nat} (h : 0 < n) :
    10 ^ ((Nat.toDigits 10 n).length - 1) ≤ n := by
  by_contra hlt
  rw [not_le] at hlt
  rcases Nat.eq_zero_or_pos ((Nat.toDigits 10 n).length - 1) with hzero | hpos
  · rw [hzero] at hlt
    omega
  · have hle := (Nat.length_toDigits_le_iff (by decide) hpos).2 hlt
    omega

theorem lt_pow_length_toDigits (n : Nat) : n < 10 ^ (Nat.toDigits 10 n).length :=
  (Nat.length_toDigits_le_iff (by decide) Nat.length_toDigits_pos).1 (Nat.le_refl _)

theorem pow_leadingExponent_le {num den : Nat} (hnum : 0 < num) :
    (10 : ℚ) ^ leadingExponent num den * den ≤ num := by
  have hbefore : (10 : ℚ) ^ ((Nat.toDigits 10 num).length - (Nat.toDigits 10 den).length -
      1 : Int) * den ≤ num := by
    have hlower : (10 : ℚ) ^ ((Nat.toDigits 10 num).length - 1 : Int) ≤ num := by
      have hle := pow_le_of_length_toDigits hnum
      have hlength := Nat.length_toDigits_pos (b := 10) (n := num)
      rw [← Nat.cast_one, ← Nat.cast_sub hlength, zpow_natCast]
      exact_mod_cast hle
    have hupper : (den : ℚ) ≤ 10 ^ ((Nat.toDigits 10 den).length : Int) := by
      rw [zpow_natCast]
      exact_mod_cast (lt_pow_length_toDigits den).le
    refine le_trans (mul_le_mul_of_nonneg_left hupper (by positivity)) ?_
    have hsum : ((Nat.toDigits 10 num).length - (Nat.toDigits 10 den).length - 1 : Int) +
        (Nat.toDigits 10 den).length =
        (Nat.toDigits 10 num).length - 1 := by omega
    rwa [← zpow_add₀ (by norm_num), hsum]
  unfold leadingExponent
  dsimp only
  generalize ((Nat.toDigits 10 num).length : Int) - (Nat.toDigits 10 den).length =
    guess at hbefore ⊢
  split_ifs with hsign hreached hreached
  · obtain ⟨power, rfl⟩ := Int.eq_ofNat_of_zero_le hsign
    rw [zpow_natCast, mul_comm]
    exact_mod_cast hreached
  · exact hbefore
  · obtain ⟨power, hpower⟩ := Int.eq_ofNat_of_zero_le (a := -guess) (by omega)
    rw [← neg_neg guess, hpower, zpow_neg, zpow_natCast, inv_mul_le_iff₀ (by positivity), mul_comm]
    rw [hpower] at hreached
    exact_mod_cast hreached
  · exact hbefore

/-- Sixteen places behind the leading one the decimals lie closer than the ends of the interval. -/
theorem exists_nearestOnGrid_sixteen (h : x.magnitude ≠ 0) : ∃ c, nearestOnGrid x.roundingInterval
    (leadingExponent (x.roundingInterval.value * x.roundingInterval.unit.1)
      x.roundingInterval.unit.2 - 16) = some c := by
  set i := x.roundingInterval with hi
  have hvalue : i.value = 4 * significandAt x.magnitude := rfl
  have hlower : i.lower = lowerAt x.magnitude := rfl
  have hupper : i.upper = 4 * significandAt x.magnitude + 2 := rfl
  have hsignificand := significandAt_pos h
  have hlimit := significandAt_lt x.magnitude
  have hwidth : i.lower < i.value ∧ i.value < i.upper ∧
      i.value < (i.upper - i.lower) * 10 ^ 16 := by
    rw [hvalue, hlower, hupper]
    unfold lowerAt hiddenBit at *
    split <;> omega
  generalize hgrid : leadingExponent (i.value * i.unit.1) i.unit.2 - 16 = grid
  obtain ⟨unit, hunit, hscale, hstep, hden, hnum⟩ := exists_unit x grid
  rw [← hi] at hscale hstep hden hnum
  have hquarter := quarter_pos x.magnitude
  have hscalePos : 0 < i.scale grid := Nat.cast_pos.1 (hscale ▸ mul_pos hquarter hunit)
  have hstepPos : 0 < i.step grid := Nat.cast_pos.1 (hstep ▸ mul_pos (by positivity) hunit)
  have hnumPos : 0 < i.value * i.unit.1 :=
    Nat.mul_pos (by omega) (Nat.cast_pos.1 (hnum ▸ mul_pos hquarter (Nat.cast_pos.2 hden)))
  have hleading : (10 : ℚ) ^ grid * 10 ^ 16 ≤ i.value * quarter x.magnitude := by
    have hle : (10 : ℚ) ^ leadingExponent (i.value * i.unit.1) i.unit.2 * i.unit.2 ≤
        (i.value * i.unit.1 : Nat) :=
      pow_leadingExponent_le hnumPos
    rw [Nat.cast_mul, hnum, ← mul_assoc, mul_le_mul_iff_left₀ (Nat.cast_pos.2 hden)] at hle
    rwa [← zpow_natCast, ← zpow_add₀ (by norm_num), ← hgrid, Nat.cast_ofNat, sub_add_cancel]
  have hfine : i.step grid < (i.upper - i.lower) * i.scale grid := by
    rw [← Nat.cast_lt (α := ℚ), Nat.cast_mul, hstep, hscale, ← mul_assoc, mul_lt_mul_iff_left₀
      hunit, ← mul_lt_mul_iff_left₀ (show (0 : ℚ) < 10 ^ 16 by positivity), mul_right_comm]
    refine hleading.trans_lt (mul_lt_mul_of_pos_right ?_ hquarter)
    exact_mod_cast hwidth.2.2
  refine RoundingInterval.exists_nearestOnGrid hstepPos
    (Nat.mul_lt_mul_of_pos_right hwidth.1 hscalePos)
    (Nat.mul_lt_mul_of_pos_right hwidth.2.1 hscalePos) ?_
  rw [Nat.sub_mul] at hfine
  omega

/-- The search takes a decimal, and that decimal rounds to the double. -/
theorem exists_shortest (h : x.magnitude ≠ 0) :
    ∃ c grid, x.shortest = ofDigits c grid ∧ RoundsTo (c * 10 ^ grid) x.magnitude := by
  set i := x.roundingInterval with hi
  obtain ⟨c, hc⟩ := exists_nearestOnGrid_sixteen h
  have hsome : (((List.range 17).map fun (n : Nat) =>
        leadingExponent (i.value * i.unit.1) i.unit.2 - (n : Int)).findSome?
      fun grid => (nearestOnGrid i grid).map (ofDigits · grid)).isSome := by
    rw [List.findSome?_isSome_iff]
    refine ⟨_, List.mem_map.2 ⟨16, by decide, rfl⟩, ?_⟩
    rw [← hi] at hc
    simp [hc]
  obtain ⟨d, hd⟩ := Option.isSome_iff_exists.1 hsome
  have hshortest : x.shortest = d := by
    unfold shortest
    dsimp only
    rw [← hi, hd]
  obtain ⟨grid, -, hgrid⟩ := List.exists_of_findSome?_eq_some hd
  obtain ⟨c, hc, rfl⟩ := Option.map_eq_some_iff.1 hgrid
  exact ⟨c, grid, hshortest, roundsTo_of_nearestOnGrid hc⟩

end DataSchema.Binary64
