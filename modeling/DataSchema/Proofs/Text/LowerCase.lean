import DataSchema.Document.Compact
import DataSchema.Proofs.Text.Numeral
import DataSchema.Text.LowerCase

/-!
# Lower-casing is settled after one pass

No character that lower-casing produces is changed by it again, and the capital sigma, whose image
depends on its neighbours, is never produced. So lower-casing twice is lower-casing once. It never
makes a text shorter, though it may make one longer.
-/

namespace DataSchema.Text

namespace Shift

def low (s : Shift) : Nat := ((s.first : Int) + s.shift).toNat

/-- Whether no image under `s` is covered by `t`: the images lie behind `t`, before it, or
between its code points. -/
def misses (s t : Shift) : Bool :=
  -- Comparisons of numbers as Boolean functions, which are evaluated for every pair of the table.
  Nat.blt t.last s.low || Nat.blt (s.low + (s.last - s.first)) t.first ||
    (Nat.ble t.first s.low && (Nat.beq s.first s.last || Nat.beq (s.step % t.step) 0) &&
      !Nat.beq ((s.low - t.first) % t.step) 0)

theorem covers_iff {s : Shift} {n : Nat} :
    s.covers n = true ↔ s.first ≤ n ∧ n ≤ s.last ∧ s.step ∣ n - s.first := by
  simp [covers, and_assoc, Nat.dvd_iff_mod_eq_zero]

theorem covers_image_eq_false {s t : Shift} {n : Nat} (hmisses : s.misses t = true)
    (hlow : 0 ≤ (s.first : Int) + s.shift) (hcovers : s.covers n = true) :
    t.covers ((n : Int) + s.shift).toNat = false := by
  obtain ⟨hfirst, hlast, hstride⟩ := covers_iff.1 hcovers
  have himage : ((n : Int) + s.shift).toNat = s.low + (n - s.first) := by
    unfold low
    omega
  rw [himage, Bool.eq_false_iff]
  intro hcovered
  obtain ⟨hfirst', hlast', hstride'⟩ := covers_iff.1 hcovered
  simp only [misses, Bool.or_eq_true, Bool.and_eq_true, Bool.not_eq_true', Nat.blt_eq, Nat.ble_eq,
    Nat.beq_eq] at hmisses
  rcases hmisses with (hbehind | hbefore) | ⟨⟨hle, hstep⟩, hbetween⟩
  · omega
  · omega
  · have hmultiple : t.step ∣ n - s.first := by
      rcases hstep with hsingle | hstep
      · have hzero : n - s.first = 0 := by omega
        rw [hzero]
        exact Nat.dvd_zero _
      · exact Nat.dvd_trans (Nat.dvd_of_mod_eq_zero hstep) hstride
    have hsplit : s.low + (n - s.first) - t.first = (s.low - t.first) + (n - s.first) := by omega
    rw [hsplit, ← Nat.dvd_add_iff_left hmultiple] at hstride'
    exact Nat.ne_of_beq_eq_false hbetween (Nat.mod_eq_zero_of_dvd hstride')

theorem image?_eq_some {shifts : List Shift} {n m : Nat} (h : image? shifts n = some m) :
    ∃ s ∈ shifts, s.covers n = true ∧ m = ((n : Int) + s.shift).toNat := by
  induction shifts with
  | nil => simp [image?] at h
  | cons s rest ih =>
    rw [image?] at h
    split at h
    · rename_i hcovers
      exact ⟨s, List.mem_cons_self, hcovers, (Option.some.inj h).symm⟩
    · obtain ⟨t, hmem, ht⟩ := ih h
      exact ⟨t, List.mem_cons_of_mem s hmem, ht⟩

theorem image?_eq_none {shifts : List Shift} {n : Nat} (h : ∀ s ∈ shifts, s.covers n = false) :
    image? shifts n = none := by
  induction shifts with
  | nil => rfl
  | cons s rest ih =>
    rw [image?, h s List.mem_cons_self, if_neg (by simp)]
    exact ih fun t ht => h t (List.mem_cons_of_mem s ht)

end Shift

open Shift

/-- The characters that lower-casing treats apart: the table moves none of the images, and does
move the capital sigma. -/
theorem image?_special :
    image? lowerShifts 'i'.toNat = none ∧ image? lowerShifts '\u0307'.toNat = none ∧
    image? lowerShifts 'ς'.toNat = none ∧ image? lowerShifts 'Σ'.toNat ≠ none := by
  decide +kernel

/-- The images under the table are characters, and neither the table nor the special case of the
capital I with a dot moves them again. -/
theorem lowerShifts_misses : ∀ s ∈ lowerShifts,
    (lowerShifts.all s.misses && s.misses ⟨0x130, 0x130, 1, 0⟩ &&
        s.misses ⟨0xd800, 0xdfff, 1, 0⟩) = true ∧
      0 ≤ (s.first : Int) + s.shift ∧ (s.last : Int) + s.shift < 0x110000 := by
  decide +kernel

/-- Lower-casing leaves the character alone wherever it stands. -/
def IsSettled (c : Char) : Prop := lowerChar c = [c] ∧ c ≠ 'Σ'

theorem isSettled_of_toNat {c : Char} (himage : image? lowerShifts c.toNat = none)
    (hdotted : c.toNat ≠ 0x130) : IsSettled c := by
  constructor
  · rw [lowerChar, himage, if_neg]
    rintro rfl
    exact hdotted rfl
  · rintro rfl
    exact image?_special.2.2.2 himage

theorem isSettled_of_lt {c : Char} (h : c.toNat < 65) : IsSettled c := by
  have hfirst : ∀ s ∈ lowerShifts, 65 ≤ s.first := by decide +kernel
  refine isSettled_of_toNat (image?_eq_none fun s hs => ?_) (by omega)
  rw [Bool.eq_false_iff]
  intro hcovers
  have hle := (covers_iff.1 hcovers).1
  have hbound := hfirst s hs
  omega

/-- Every character that lower-casing produces is settled. -/
theorem isSettled_of_mem_lowerChar {c d : Char} (h : d ∈ lowerChar c) : IsSettled d := by
  unfold lowerChar at h
  split at h
  · have hi : IsSettled 'i' := isSettled_of_toNat image?_special.1 (by decide)
    have hdot : IsSettled '\u0307' := isSettled_of_toNat image?_special.2.1 (by decide)
    rcases List.mem_cons.1 h with rfl | h
    · exact hi
    · rw [List.mem_singleton.1 h]
      exact hdot
  · rename_i hdotted
    split at h
    · rename_i m himage
      obtain ⟨s, hmem, hcovers, rfl⟩ := image?_eq_some himage
      obtain ⟨hmisses, hlow, hhigh⟩ := lowerShifts_misses s hmem
      simp only [Bool.and_eq_true, List.all_eq_true] at hmisses
      obtain ⟨⟨htable, hspecial⟩, hsurrogate⟩ := hmisses
      have hnot : ∀ t, s.misses t = true → t.covers ((c.toNat : Int) + s.shift).toNat = false :=
        fun t ht =>
        covers_image_eq_false ht hlow hcovers
      have hvalid : ((c.toNat : Int) + s.shift).toNat.isValidChar := by
        have hrange := hnot _ hsurrogate
        obtain ⟨-, hlast, -⟩ := covers_iff.1 hcovers
        simp [covers, Nat.mod_one] at hrange
        simp only [Nat.isValidChar]
        omega
      rw [List.mem_singleton.1 h]
      have hcode : (Char.ofNat ((c.toNat : Int) + s.shift).toNat).toNat =
          ((c.toNat : Int) + s.shift).toNat := by
        rw [Char.ofNat, dif_pos hvalid]
        rfl
      refine isSettled_of_toNat ?_ ?_
      · rw [hcode]
        exact image?_eq_none fun t ht => hnot t (htable t ht)
      · rw [hcode]
        intro heq
        have hcovered := hnot _ hspecial
        rw [heq] at hcovered
        exact absurd hcovered (by decide)
    · rename_i himage
      rw [List.mem_singleton.1 h]
      exact isSettled_of_toNat himage fun heq => hdotted (Char.toNat_inj.1 heq)

theorem isSettled_of_mem_lowerFrom {before text : List Char} {d : Char}
    (h : d ∈ lowerFrom before text) : IsSettled d := by
  induction text generalizing before with
  | nil => simp [lowerFrom] at h
  | cons c rest ih =>
    rw [lowerFrom, List.mem_append] at h
    rcases h with hhead | hrest
    · split at hhead
      · rw [List.mem_singleton.1 hhead]
        exact isSettled_of_toNat image?_special.2.2.1 (by decide)
      · exact isSettled_of_mem_lowerChar hhead
    · exact ih hrest

theorem lowerFrom_eq_self {before text : List Char} (h : ∀ c ∈ text, IsSettled c) :
    lowerFrom before text = text := by
  induction text generalizing before with
  | nil => rfl
  | cons c rest ih =>
    obtain ⟨hlower, hsigma⟩ := h c List.mem_cons_self
    rw [lowerFrom, decide_eq_false hsigma, Bool.false_and, Bool.false_and,
      if_neg Bool.false_ne_true, hlower, ih fun d hd => h d (List.mem_cons_of_mem c hd)]
    rfl

theorem lowercase_lowercase (text : String) : lowercase (lowercase text) = lowercase text := by
  rw [lowercase, lowerFrom_eq_self fun c hc => ?_, String.ofList_toList]
  rw [lowercase, String.toList_ofList] at hc
  exact isSettled_of_mem_lowerFrom hc

theorem lowercase_integer (i : Int) :
    lowercase (String.ofList (integer i)) = String.ofList (integer i) := by
  have hdigits : ∀ c ∈ Nat.toDigits 10 i.natAbs, IsSettled c := by
    intro c hc
    have hdigit := isDigit_of_mem_toDigits c hc
    rw [Char.isDigit_iff_toNat, show '9'.toNat = 57 from rfl] at hdigit
    exact isSettled_of_lt (by omega)
  have hall : ∀ c ∈ integer i, IsSettled c := by
    unfold integer
    split
    · exact List.forall_mem_cons.2 ⟨isSettled_of_lt (by decide), hdigits⟩
    · exact hdigits
  rw [lowercase, String.toList_ofList, lowerFrom_eq_self hall]

theorem one_le_length_lowerChar (c : Char) : 1 ≤ (lowerChar c).length := by
  unfold lowerChar
  split
  · decide
  · split <;> exact Nat.le_refl 1

theorem length_le_length_lowerFrom (before text : List Char) :
    text.length ≤ (lowerFrom before text).length := by
  induction text generalizing before with
  | nil => exact Nat.zero_le _
  | cons c rest ih =>
    have hrest := ih (c :: before)
    have hhead := one_le_length_lowerChar c
    rw [lowerFrom, List.length_append, List.length_cons]
    split
    · rw [List.length_singleton]
      omega
    · omega

/-- No text has more characters than its lower case. -/
theorem length_le_length_lowercase (text : String) : text.length ≤ (lowercase text).length := by
  rw [lowercase, String.length_ofList, ← String.length_toList]
  exact length_le_length_lowerFrom [] text.toList

end DataSchema.Text
