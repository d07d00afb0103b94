import DataSchema.Document.Compact
import DataSchema.Text.Numeral

/-!
# Numerals and the numbers that they denote

A run of decimal digits denotes a natural number, and behind a minus sign it denotes a number that
is not positive. Zeros in front are allowed, so a number has many numerals, and zero has some with a
minus sign. The text that an integer is printed as is one of its numerals.
-/

namespace DataSchema.Text

variable {text digits : List Char} {n : Nat} {i : Int}

/-! ### Digits -/

theorem isDigits_iff : isDigits text = true ↔ text ≠ [] ∧ ∀ c ∈ text, c.isDigit = true := by
  simp [isDigits]

theorem isDigit_of_mem_toDigits : ∀ c ∈ Nat.toDigits 10 n, c.isDigit = true := fun _ hc =>
  Nat.isDigit_of_mem_toDigits (by decide) (by decide) hc

theorem isDigits_toDigits (n : Nat) : isDigits (Nat.toDigits 10 n) = true :=
  isDigits_iff.2 ⟨Nat.toDigits_ne_nil, isDigit_of_mem_toDigits⟩

theorem naturalValue_toDigits (n : Nat) : naturalValue (Nat.toDigits 10 n) = n :=
  Nat.ofDigitChars_ten_toDigits

theorem unsigned?_eq_some_iff : unsigned? text = some n ↔
    ∃ digits, (text = digits ∨ text = '+' :: digits) ∧ isDigits digits = true ∧
      naturalValue digits = n := by
  have hrun : ∀ digits : List Char, (if isDigits digits = true then some (naturalValue digits)
        else none) = some n ↔
      isDigits digits = true ∧ naturalValue digits = n := by
    intro digits
    simp
  unfold unsigned?
  split
  · rename_i rest
    rw [hrun]
    constructor
    · rintro ⟨hdigits, hvalue⟩
      exact ⟨rest, .inr rfl, hdigits, hvalue⟩
    · rintro ⟨digits, rfl | heq, hdigits, hvalue⟩
      · exact absurd ((isDigits_iff.1 hdigits).2 '+' List.mem_cons_self) (by decide)
      · cases heq
        exact ⟨hdigits, hvalue⟩
  · rename_i hplus
    rw [hrun]
    constructor
    · rintro ⟨hdigits, hvalue⟩
      exact ⟨text, .inl rfl, hdigits, hvalue⟩
    · rintro ⟨digits, rfl | heq, hdigits, hvalue⟩
      · exact ⟨hdigits, hvalue⟩
      · exact absurd heq (hplus digits)

/-! ### Integers -/

/-- The text is made of decimal digits, at least one, with a minus sign in front or without, and the
integer is their decimal value. -/
inductive Denotes : List Char → Int → Prop
  | natural {digits : List Char} (hne : digits ≠ []) (hdigits : ∀ c ∈ digits, c.isDigit = true) :
      Denotes digits (Nat.ofDigitChars 10 digits 0)
  | negative {digits : List Char} (hne : digits ≠ []) (hdigits : ∀ c ∈ digits, c.isDigit = true) :
      Denotes ('-' :: digits) (-(Nat.ofDigitChars 10 digits 0))

/-- The text denotes an integer that is a signed word: from `-2 ^ 63` up to, but
not including, `2 ^ 63`. -/
structure DenotesWord (text : List Char) (i : Int) : Prop where
  denotes : Denotes text i
  lower : -0x8000000000000000 ≤ i
  upper : i < 0x8000000000000000

theorem denotesWord_iff :
    DenotesWord text i ↔ Denotes text i ∧ -0x8000000000000000 ≤ i ∧ i < 0x8000000000000000 :=
  ⟨fun h => ⟨h.denotes, h.lower, h.upper⟩, fun h => ⟨h.1, h.2.1, h.2.2⟩⟩

theorem denotes_minus_iff :
    Denotes ('-' :: digits) i ↔ isDigits digits = true ∧ i = -(naturalValue digits : Int) := by
  rw [isDigits_iff]
  constructor
  · intro h
    cases h with
    | natural _ hdigits => exact absurd (hdigits '-' List.mem_cons_self) (by decide)
    | negative hne hdigits => exact ⟨⟨hne, hdigits⟩, rfl⟩
  · rintro ⟨⟨hne, hdigits⟩, rfl⟩
    exact .negative hne hdigits

theorem denotes_iff (hminus : ∀ rest, text ≠ '-' :: rest) :
    Denotes text i ↔ isDigits text = true ∧ i = naturalValue text := by
  rw [isDigits_iff]
  constructor
  · intro h
    cases h with
    | natural hne hdigits => exact ⟨⟨hne, hdigits⟩, rfl⟩
    | negative => exact absurd rfl (hminus _)
  · rintro ⟨⟨hne, hdigits⟩, rfl⟩
    exact .natural hne hdigits

theorem denotes_integer (i : Int) : Denotes (integer i) i := by
  have hvalue : naturalValue (Nat.toDigits 10 i.natAbs) = i.natAbs := naturalValue_toDigits i.natAbs
  unfold integer
  split
  · rw [denotes_minus_iff, hvalue]
    exact ⟨isDigits_toDigits _, by omega⟩
  · rename_i hnonneg
    have hnatural : Denotes (Nat.toDigits 10 i.natAbs) (naturalValue (Nat.toDigits 10 i.natAbs)) :=
      .natural Nat.toDigits_ne_nil isDigit_of_mem_toDigits
    rwa [hvalue, Int.natAbs_of_nonneg (by omega)] at hnatural

theorem toList_toString (i : Int) : (toString i).toList = integer i := by
  cases i with
  | ofNat n => exact Nat.toList_repr
  | negSucc n =>
    have hprinted : toString (Int.negSucc n) = "-" ++ Nat.repr (n + 1) := rfl
    rw [hprinted, String.toList_append, Nat.toList_repr, integer, if_pos (Int.negSucc_lt_zero n)]
    rfl

theorem denotes_toString (i : Int) : Denotes (toString i).toList i := by
  rw [toList_toString]
  exact denotes_integer i

end DataSchema.Text
