import Mathlib.Data.List.TakeWhile
import DataSchema.Proofs.Number.Shortest
import DataSchema.Proofs.Text.Numeral

/-!
# The text of a double tells which double it is

A double is written as a decimal number, and that number rounds to the double whichever
notation serves its exponent. A written number can be taken apart in one way only, so different
doubles have different texts.
-/

namespace DataSchema

/-- Where a text goes on with characters of another kind can be seen from the text. -/
theorem append_inj_of_all {kind : Char → Bool} {a b r s : List Char} (ha : ∀ c ∈ a, kind c = true)
    (hb : ∀ c ∈ b, kind c = true) (hr : ∀ c ∈ r.head?, kind c = false)
    (hs : ∀ c ∈ s.head?, kind c = false) (h : a ++ r = b ++ s) : a = b ∧ r = s := by
  have hsplit : ∀ {a r : List Char}, (∀ c ∈ a, kind c = true) → (∀ c ∈ r.head?, kind c = false) →
      (a ++ r).takeWhile kind = a := by
    intro a r ha hr
    rw [List.takeWhile_append_of_pos ha]
    cases r with
    | nil => exact List.append_nil a
    | cons c r => rw [List.takeWhile_cons_of_neg (by simp [hr c rfl]), List.append_nil]
  obtain rfl : a = b := by rw [← hsplit ha hr, h, hsplit hb hs]
  exact ⟨rfl, List.append_cancel_left h⟩

namespace Text

def isNumeric (c : Char) : Bool := c.isDigit || c == '-' || c == '+' || c == '.' || c == 'e'

theorem isNumeric_of_isDigit (c : Char) (h : c.isDigit = true) : isNumeric c = true := by
  simp [isNumeric, h]

end Text

/-- A decimal number as it is written: digits, digits behind a point, and behind an `e` a
power of ten with its sign. -/
@[ext]
structure Numeral where
  whole : List Char
  fraction : Option (List Char)
  power : Option (Bool × List Char)
  whole_digits : ∀ c ∈ whole, c.isDigit = true
  fraction_digits : ∀ c ∈ fraction.getD [], c.isDigit = true
  power_digits : ∀ c ∈ (power.map Prod.snd).getD [], c.isDigit = true
  marked : fraction.isSome ∨ power.isSome

namespace Numeral

def fractionText : Option (List Char) → List Char
  | none => []
  | some digits => '.' :: digits

def powerText : Option (Bool × List Char) → List Char
  | none => []
  | some (negative, digits) => 'e' :: (if negative then '-' else '+') :: digits

def text (n : Numeral) : List Char := n.whole ++ (fractionText n.fraction ++ powerText n.power)

def powerValue : Option (Bool × List Char) → Int
  | none => 0
  | some (negative, digits) =>
    if negative then -Nat.ofDigitChars 10 digits 0 else Nat.ofDigitChars 10 digits 0

def value (n : Numeral) : ℚ :=
  Nat.ofDigitChars 10 (n.whole ++ n.fraction.getD []) 0 *
    10 ^ (powerValue n.power - (n.fraction.getD []).length)

theorem head?_powerText (power : Option (Bool × List Char)) :
    ∀ c ∈ (powerText power).head?, c.isDigit = false := by
  cases power <;> simp [powerText]

theorem head?_fractionText (fraction : Option (List Char)) (power : Option (Bool × List Char)) :
    ∀ c ∈ (fractionText fraction ++ powerText power).head?, c.isDigit = false := by
  cases fraction with
  | none => exact head?_powerText power
  | some digits => simp [fractionText]

theorem powerText_injective : Function.Injective powerText := by
  rintro (_ | ⟨_ | _, digits⟩) (_ | ⟨_ | _, others⟩) h <;> simp_all [powerText]

theorem text_injective : Function.Injective text := by
  intro n m h
  obtain ⟨hwhole, hrest⟩ := append_inj_of_all n.whole_digits m.whole_digits (head?_fractionText _ _)
    (head?_fractionText _ _) h
  have hparts : n.fraction = m.fraction ∧ powerText n.power = powerText m.power := by
    have hn := n.fraction_digits
    have hm := m.fraction_digits
    cases hfirst : n.fraction with
    | none =>
      cases hsecond : m.fraction with
      | none =>
        rw [hfirst, hsecond] at hrest
        exact ⟨rfl, hrest⟩
      | some digits =>
        rw [hfirst, hsecond] at hrest
        cases hpower : n.power <;> simp [hpower, fractionText, powerText] at hrest
    | some digits =>
      cases hsecond : m.fraction with
      | none =>
        rw [hfirst, hsecond] at hrest
        cases hpower : m.power <;> simp [hpower, fractionText, powerText] at hrest
      | some others =>
        rw [hfirst] at hrest hn
        rw [hsecond] at hrest hm
        obtain ⟨hdigits, hpower⟩ := append_inj_of_all hn hm (head?_powerText _) (head?_powerText _)
          (List.cons.inj hrest).2
        exact ⟨congrArg some hdigits, hpower⟩
  exact Numeral.ext hwhole hparts.1 (powerText_injective hparts.2)

theorem isNumeric_of_mem_text {n : Numeral} : ∀ c ∈ n.text, Text.isNumeric c = true := by
  have hfraction := n.fraction_digits
  have hpower := n.power_digits
  refine List.forall_mem_append.2 ⟨fun c hc =>
    Text.isNumeric_of_isDigit c (n.whole_digits c hc), ?_⟩
  refine List.forall_mem_append.2 ⟨?_, ?_⟩
  · cases hcase : n.fraction with
    | none => exact nofun
    | some digits =>
      rw [hcase] at hfraction
      exact List.forall_mem_cons.2 ⟨rfl, fun c hc => Text.isNumeric_of_isDigit c (hfraction c hc)⟩
  · cases hcase : n.power with
    | none => exact nofun
    | some power =>
      rw [hcase] at hpower
      have hsign : Text.isNumeric (if power.1 then '-' else '+') = true := by split_ifs <;> rfl
      refine List.forall_mem_cons.2 ⟨rfl, List.forall_mem_cons.2 ⟨hsign, ?_⟩⟩
      exact fun c hc => Text.isNumeric_of_isDigit c (hpower c hc)

theorem mem_text_of_marked (n : Numeral) : '.' ∈ n.text ∨ 'e' ∈ n.text := by
  rw [text, List.mem_append, List.mem_append, List.mem_append, List.mem_append]
  refine n.marked.imp (fun h => .inr (.inl ?_)) fun h => .inr (.inr ?_)
  · obtain ⟨digits, hdigits⟩ := Option.isSome_iff_exists.1 h
    rw [hdigits]
    exact List.mem_cons_self
  · obtain ⟨power, hpower⟩ := Option.isSome_iff_exists.1 h
    rw [hpower]
    exact List.mem_cons_self

/-- The sign of a number is not part of its digits. -/
theorem text_ne_minus (n : Numeral) (rest : List Char) : n.text ≠ '-' :: rest := by
  intro h
  rw [text] at h
  have hwhole := n.whole_digits
  cases hcase : n.whole with
  | nil =>
    cases hfraction : n.fraction <;> cases hpower : n.power <;>
      simp [hcase, hfraction, hpower, fractionText, powerText] at h
  | cons c digits =>
    rw [hcase] at h hwhole
    obtain rfl := (List.cons.inj h).1
    exact absurd (hwhole '-' List.mem_cons_self) (by decide)

end Numeral

/-- The number that a decimal denotes. -/
def Decimal.value (d : Decimal) : ℚ :=
  Nat.ofDigitChars 10 d.digits 0 * 10 ^ (d.exponent + 1 - d.digits.length)

namespace Binary64

variable {d : Decimal}

/-! ### The two notations -/

/-- The digits of a decimal with zeros behind them denote it when the power of ten
makes up for the zeros. -/
theorem value_eq_value {n : Numeral} (zeros : Nat)
    (hdigits : Nat.ofDigitChars 10 (n.whole ++ n.fraction.getD []) 0 =
      10 ^ zeros * Nat.ofDigitChars 10 d.digits 0)
    (hpower : Numeral.powerValue n.power - (n.fraction.getD []).length + zeros =
      d.exponent + 1 - d.digits.length) :
    n.value = d.value := by
  rw [Numeral.value, Decimal.value, hdigits, ← hpower, zpow_add₀ (by norm_num), zpow_natCast]
  push_cast
  ring

theorem isDigit_zero : ∀ c ∈ ['0'], c.isDigit = true := List.forall_mem_singleton.2 rfl

theorem exists_numeral_positional (hdigits : ∀ c ∈ d.digits, c.isDigit = true) :
    ∃ n : Numeral, n.text = positional d ∧ n.value = d.value := by
  have hzeros : ∀ k, ∀ c ∈ List.replicate k '0', c.isDigit = true := by
    intro k c hc
    rw [List.eq_of_mem_replicate hc]
    rfl
  unfold positional
  dsimp only
  split_ifs with hsmall hlarge
  · refine ⟨⟨['0'], some (List.replicate (-d.exponent - 1).toNat '0' ++ d.digits),
      none, isDigit_zero,
      List.forall_mem_append.2 ⟨hzeros _, hdigits⟩, nofun, .inl rfl⟩, ?_, value_eq_value 0 ?_ ?_⟩
    · simp [Numeral.text, Numeral.fractionText, Numeral.powerText]
    · dsimp only [Option.getD_some]
      rw [Nat.ofDigitChars_append, Nat.ofDigitChars_append, Nat.ofDigitChars_replicate_zero,
        pow_zero, one_mul]
      rfl
    · dsimp only [Option.getD_some]
      rw [List.length_append, List.length_replicate, Numeral.powerValue]
      omega
  · refine ⟨⟨d.digits ++ List.replicate (d.exponent + 1 - d.digits.length).toNat '0',
      some ['0'], none,
      List.forall_mem_append.2 ⟨hdigits, hzeros _⟩, isDigit_zero, nofun, .inl rfl⟩, ?_,
      value_eq_value ((d.exponent + 1 - d.digits.length).toNat + 1) ?_ ?_⟩
    · simp [Numeral.text, Numeral.fractionText, Numeral.powerText]
    · dsimp only [Option.getD_some]
      rw [Nat.ofDigitChars_append, Nat.ofDigitChars_append, Nat.ofDigitChars_replicate_zero,
        pow_succ', mul_assoc]
      rfl
    · dsimp only [Option.getD_some]
      rw [List.length_singleton, Numeral.powerValue]
      omega
  · refine ⟨⟨d.digits.take (d.exponent + 1).toNat,
      some (d.digits.drop (d.exponent + 1).toNat), none,
      fun c hc => hdigits c (List.mem_of_mem_take hc), fun c hc =>
        hdigits c (List.mem_of_mem_drop hc), nofun, .inl rfl⟩,
      ?_, value_eq_value 0 ?_ ?_⟩
    · simp [Numeral.text, Numeral.fractionText, Numeral.powerText]
    · dsimp only [Option.getD_some]
      rw [List.take_append_drop, pow_zero, one_mul]
    · dsimp only [Option.getD_some]
      rw [List.length_drop, Numeral.powerValue]
      omega

theorem exists_numeral_scientific (hdigits : ∀ c ∈ d.digits, c.isDigit = true)
    (hne : d.digits ≠ []) :
    ∃ n : Numeral, n.text = scientific d ∧ n.value = d.value := by
  obtain ⟨digits, exponent⟩ := d
  obtain ⟨c, rest, rfl⟩ := List.exists_cons_of_ne_nil hne
  have hpower : Numeral.powerValue (some (decide (exponent < 0), Nat.toDigits 10 exponent.natAbs)) =
      exponent := by
    rw [Numeral.powerValue, Nat.ofDigitChars_ten_toDigits]
    split_ifs with hsign <;> simp at hsign <;> omega
  have hfraction : (if rest = [] then none else some rest).getD [] = rest := by
    split_ifs with hrest
    · exact hrest.symm
    · rfl
  refine ⟨⟨[c], if rest = [] then none else some rest,
    some (decide (exponent < 0), Nat.toDigits 10 exponent.natAbs),
    fun d hd => hdigits d (List.mem_cons.2 (.inl (List.mem_singleton.1 hd))),
    fun d hd => hdigits d (List.mem_cons_of_mem _ (hfraction ▸ hd)),
    Text.isDigit_of_mem_toDigits, .inr rfl⟩, ?_, value_eq_value 0 ?_ ?_⟩
  · cases rest <;> simp [Numeral.text, Numeral.fractionText, Numeral.powerText, scientific,
      mantissa] <;> split_ifs <;> rfl
  · dsimp only
    rw [hfraction, pow_zero, one_mul]
    rfl
  · dsimp only
    rw [hfraction, hpower, List.length_cons]
    omega

/-! ### The digits of a decimal on a grid -/

theorem exists_append_replicate (c : Nat) (grid : Int) :
    ∃ zeros, Nat.toDigits 10 c = (ofDigits c grid).digits ++ List.replicate zeros '0' := by
  have hsplit := congrArg List.reverse
    (List.takeWhile_append_dropWhile (p := (· == '0')) (l := (Nat.toDigits 10 c).reverse))
  obtain ⟨zeros, hzeros⟩ : ∃ zeros, (Nat.toDigits 10 c).reverse.takeWhile (· == '0') =
      List.replicate zeros '0' := by
    refine ⟨_, List.eq_replicate_of_mem fun digit hdigit => ?_⟩
    simpa using List.mem_takeWhile_imp hdigit
  rw [List.reverse_append, List.reverse_reverse, hzeros, List.reverse_replicate] at hsplit
  exact ⟨zeros, hsplit.symm⟩

theorem isDigit_of_mem_ofDigits {c : Nat} {grid : Int} :
    ∀ digit ∈ (ofDigits c grid).digits, digit.isDigit = true := by
  intro digit hdigit
  obtain ⟨zeros, hzeros⟩ := exists_append_replicate c grid
  exact Text.isDigit_of_mem_toDigits digit (hzeros ▸ List.mem_append_left _ hdigit)

theorem value_ofDigits (c : Nat) (grid : Int) : (ofDigits c grid).value = c * 10 ^ grid := by
  obtain ⟨zeros, hzeros⟩ := exists_append_replicate c grid
  have hvalue : c = 10 ^ zeros * Nat.ofDigitChars 10 (ofDigits c grid).digits 0 := by
    rw [← Nat.ofDigitChars_replicate_zero, ← Nat.ofDigitChars_append, ← hzeros,
      Nat.ofDigitChars_ten_toDigits]
  have hexponent : (ofDigits c grid).exponent + 1 - (ofDigits c grid).digits.length =
      grid + zeros := by
    have hlength := congrArg List.length hzeros
    rw [List.length_append, List.length_replicate] at hlength
    rw [show (ofDigits c grid).exponent = grid + (Nat.toDigits 10 c).length - 1 from rfl, hlength]
    omega
  rw [Decimal.value, hexponent, zpow_add₀ (by norm_num), zpow_natCast]
  conv_rhs => rw [hvalue]
  push_cast
  ring

/-! ### Doubles -/

/-- The text without the sign denotes a number that rounds to the double. -/
theorem exists_numeral (x : Binary64) :
    ∃ n : Numeral, n.text = x.unsignedText ∧ RoundsTo n.value x.magnitude := by
  unfold unsignedText
  by_cases hzero : x.magnitude = 0
  · rw [if_pos hzero, hzero]
    refine ⟨⟨['0'], some ['0'], none, isDigit_zero, isDigit_zero, nofun, .inl rfl⟩, rfl, ?_⟩
    convert roundsTo_zero
    rw [Numeral.value, show Nat.ofDigitChars 10 _ 0 = 0 from rfl, Nat.cast_zero, zero_mul]
  · obtain ⟨c, grid, hshortest, hrounds⟩ := exists_shortest hzero
    rw [← value_ofDigits c grid] at hrounds
    have hne : (ofDigits c grid).digits ≠ [] := by
      intro hnil
      have hpos := hrounds.pos hzero
      rw [Decimal.value, hnil, Nat.ofDigitChars_nil, Nat.cast_zero, zero_mul] at hpos
      exact lt_irrefl 0 hpos
    rw [if_neg hzero, hshortest]
    dsimp only
    split_ifs
    · obtain ⟨n, htext, hvalue⟩ :=
        exists_numeral_positional (d := ofDigits c grid) isDigit_of_mem_ofDigits
      exact ⟨n, htext, hvalue ▸ hrounds⟩
    · obtain ⟨n, htext, hvalue⟩ :=
        exists_numeral_scientific (d := ofDigits c grid) isDigit_of_mem_ofDigits hne
      exact ⟨n, htext, hvalue ▸ hrounds⟩

variable {x y : Binary64}

theorem magnitude_eq_of_unsignedText_eq (h : x.unsignedText = y.unsignedText) :
    x.magnitude = y.magnitude := by
  obtain ⟨n, hn, hx⟩ := exists_numeral x
  obtain ⟨m, hm, hy⟩ := exists_numeral y
  obtain rfl : n = m := Numeral.text_injective (by rw [hn, hm, h])
  exact hx.unique hy

theorem eq_of_magnitude_eq (hsign : x.isNegative = y.isNegative) (h : x.magnitude = y.magnitude) :
    x = y := by
  have hx := x.bits.toNat_lt
  have hy := y.bits.toNat_lt
  have hbits : x.bits.toNat = y.bits.toNat := by
    unfold isNegative magnitude signedCount at *
    rw [decide_eq_decide] at hsign
    omega
  exact congrArg mk (UInt64.toNat_inj.1 hbits)

theorem text_injective : Function.Injective text := by
  intro x y h
  obtain ⟨n, hn, -⟩ := exists_numeral x
  obtain ⟨m, hm, -⟩ := exists_numeral y
  unfold text at h
  split_ifs at h with hx hy hy
  · exact eq_of_magnitude_eq (hx.trans hy.symm)
      (magnitude_eq_of_unsignedText_eq (List.cons.inj h).2)
  · exact absurd (hm.trans h.symm) (m.text_ne_minus _)
  · exact absurd (hn.trans h) (n.text_ne_minus _)
  · exact eq_of_magnitude_eq (by simp [hx, hy]) (magnitude_eq_of_unsignedText_eq h)

theorem isNumeric_of_mem_text (x : Binary64) : ∀ c ∈ x.text, Text.isNumeric c = true := by
  obtain ⟨n, hn, -⟩ := exists_numeral x
  unfold text
  split_ifs
  · exact List.forall_mem_cons.2 ⟨rfl, hn ▸ n.isNumeric_of_mem_text⟩
  · exact hn ▸ n.isNumeric_of_mem_text

theorem mem_text (x : Binary64) : '.' ∈ x.text ∨ 'e' ∈ x.text := by
  obtain ⟨n, hn, -⟩ := exists_numeral x
  have hmarked := hn ▸ n.mem_text_of_marked
  unfold text
  split_ifs
  · exact hmarked.imp (List.mem_cons_of_mem _) (List.mem_cons_of_mem _)
  · exact hmarked

end Binary64

end DataSchema
