import DataSchema.Formats
import DataSchema.Proofs.Store.Addressing
import DataSchema.Proofs.Text.Numeral

/-!
# Texts of address ranges

A range is an address, a slash and a length. The text is cut at its first slash, which is the only
one that can be meant, since no address has one. The length is read as numerals are read elsewhere,
with leading zeros and with a plus sign in front, so beside the ranges that are written as usual
there are those with a sign before the length.
-/

namespace DataSchema

namespace Text

variable {separator : Char} {text before after : List Char}

theorem forall_mem_of_pieces {p : Char → Prop} (hseparator : p separator)
    (h : ∀ piece ∈ pieces separator text, ∀ c ∈ piece, p c) : ∀ c ∈ text, p c := by
  induction text with
  | nil => simp
  | cons c rest ih =>
    rw [pieces] at h
    split at h
    · rename_i heq
      rw [List.forall_mem_cons] at h
      exact List.forall_mem_cons.2 ⟨heq ▸ hseparator, ih h.2⟩
    · split at h
      · rename_i piece others hpieces
        rw [List.forall_mem_cons, List.forall_mem_cons] at h
        refine List.forall_mem_cons.2 ⟨h.1.1, ih ?_⟩
        rw [hpieces]
        exact List.forall_mem_cons.2 ⟨h.1.2, h.2⟩
      · rename_i hpieces
        rw [pieces_eq_splitOn] at hpieces
        exact absurd hpieces (List.splitOn_ne_nil _ _)

theorem splitOnce?_eq_some (h : splitOnce? separator text = some (before, after)) :
    text = before ++ separator :: after := by
  induction text generalizing before with
  | nil => cases h
  | cons c rest ih =>
    rw [splitOnce?] at h
    split at h
    · rename_i heq
      cases h
      rw [heq]
      rfl
    · obtain ⟨⟨inner, _⟩, hinner, heq⟩ := Option.map_eq_some_iff.1 h
      cases heq
      rw [ih hinner]
      rfl

end Text

namespace Address

/-! ### The characters of an address -/

def isAddressChar (c : Char) : Bool := isHexDigit c || c == ':' || c == '.'

variable {text : List Char}

theorem isAddressChar_of_isDigit {c : Char} (h : c.isDigit = true) : isAddressChar c = true := by
  simp [isAddressChar, isHexDigit, Text.hexValue?, h]

theorem isAddressChar_of_isGroup (h : isGroup text = true) :
    ∀ c ∈ text, isAddressChar c = true := by
  intro c hc
  rw [isGroup, Bool.and_eq_true, List.all_eq_true] at h
  simp [isAddressChar, h.2 c hc]

theorem isAddressChar_of_isIPv4 (h : isIPv4 text = true) : ∀ c ∈ text, isAddressChar c = true := by
  simp only [isIPv4, Bool.and_eq_true, List.all_eq_true] at h
  have hoctets : ∀ octet ∈ Text.pieces '.' text, ∀ c ∈ octet, isAddressChar c = true := by
    intro octet hoctet c hc
    have hdigits := h.2 octet hoctet
    simp only [isOctet, Bool.and_eq_true] at hdigits
    exact isAddressChar_of_isDigit ((Text.isDigits_iff.1 hdigits.1.1.1).2 c hc)
  exact Text.forall_mem_of_pieces rfl hoctets

theorem isAddressChar_of_groupCount? {mayEndInIPv4 : Bool} {pieces : List (List Char)} {n : Nat}
    (h : groupCount? mayEndInIPv4 pieces = some n) :
    ∀ piece ∈ pieces, ∀ c ∈ piece, isAddressChar c = true := by
  fun_induction groupCount? mayEndInIPv4 pieces generalizing n with
  | case1 => simp
  | case2 last hgroup => exact List.forall_mem_singleton.2 (isAddressChar_of_isGroup hgroup)
  | case3 last _ hIPv4 =>
    exact List.forall_mem_singleton.2 (isAddressChar_of_isIPv4 (Bool.and_eq_true_iff.1 hIPv4).2)
  | case4 => cases h
  | case5 piece rest _ hgroup ih =>
    obtain ⟨count, hcount, -⟩ := Option.map_eq_some_iff.1 h
    exact List.forall_mem_cons.2 ⟨isAddressChar_of_isGroup hgroup, ih hcount⟩
  | case6 => cases h

theorem isAddressChar_of_groupPieces {mayEndInIPv4 : Bool} {n : Nat}
    (h : groupCount? mayEndInIPv4 (groupPieces text) = some n) :
    ∀ c ∈ text, isAddressChar c = true := by
  have hpieces := isAddressChar_of_groupCount? h
  rw [groupPieces] at hpieces
  split at hpieces
  · rename_i hempty
    simp [List.isEmpty_iff.1 hempty]
  · exact Text.forall_mem_of_pieces rfl hpieces

theorem eq_of_splitAtGap? {before after : List Char} (h : splitAtGap? text = some (before, after)) :
    text = before ++ ':' :: ':' :: after := by
  fun_induction splitAtGap? text generalizing before with
  | case1 rest =>
    cases h
    rfl
  | case2 c rest _ ih =>
    obtain ⟨⟨inner, _⟩, hinner, heq⟩ := Option.map_eq_some_iff.1 h
    cases heq
    rw [ih hinner]
    rfl
  | case3 => cases h

theorem isAddressChar_of_isIPv6 (h : isIPv6 text = true) : ∀ c ∈ text, isAddressChar c = true := by
  rw [isIPv6] at h
  split at h
  · exact isAddressChar_of_groupPieces (beq_iff_eq.1 h)
  · rename_i before after hgap
    split at h
    · rename_i m n hbefore hafter
      rw [eq_of_splitAtGap? hgap, List.forall_mem_append, List.forall_mem_cons,
        List.forall_mem_cons]
      exact ⟨isAddressChar_of_groupPieces hbefore, rfl, rfl, isAddressChar_of_groupPieces hafter⟩
    · cases h

theorem slash_notMem_of_isIPv4 (h : isIPv4 text = true) : '/' ∉ text := by
  intro hmem
  exact absurd (isAddressChar_of_isIPv4 h '/' hmem) (by decide)

theorem slash_notMem_of_isIPv6 (h : isIPv6 text = true) : '/' ∉ text := by
  intro hmem
  exact absurd (isAddressChar_of_isIPv6 h '/' hmem) (by decide)

/-! ### Ranges -/

/-- The text is an address, a slash and a length of at most `longest` in one or more digits,
with a sign in front of it. -/
def WritesRange (isAddress : List Char → Bool) (longest : Nat) (sign text : List Char) : Prop :=
  ∃ address digits, text = address ++ '/' :: (sign ++ digits) ∧ isAddress address = true ∧
    digits ≠ [] ∧ (∀ c ∈ digits, c.isDigit = true) ∧ Text.naturalValue digits ≤ longest

theorem isRange_iff {isAddress : List Char → Bool} {longest : Nat}
    (hslash : ∀ address, isAddress address = true → '/' ∉ address) :
    isRange isAddress longest text = true ↔
      WritesRange isAddress longest [] text ∨ WritesRange isAddress longest ['+'] text := by
  constructor
  · intro h
    rw [isRange] at h
    split at h
    · rename_i address length hsplit
      rw [Bool.and_eq_true, Option.any_eq_true] at h
      obtain ⟨haddress, n, hlength, hlongest⟩ := h
      obtain ⟨digits, hsign, hdigits, rfl⟩ := Text.unsigned?_eq_some_iff.1 hlength
      obtain ⟨hnonempty, hall⟩ := Text.isDigits_iff.1 hdigits
      have hle : Text.naturalValue digits ≤ longest := of_decide_eq_true hlongest
      rw [Text.splitOnce?_eq_some hsplit]
      rcases hsign with rfl | rfl
      · exact .inl ⟨address, length, rfl, haddress, hnonempty, hall, hle⟩
      · exact .inr ⟨address, digits, rfl, haddress, hnonempty, hall, hle⟩
    · cases h
  · have hwritten : ∀ sign, (∀ digits : List Char, sign ++ digits = digits ∨
          sign ++ digits = '+' :: digits) →
        WritesRange isAddress longest sign text → isRange isAddress longest text = true := by
      rintro sign hsign ⟨address, digits, rfl, haddress, hnonempty, hall, hle⟩
      have hlength := Text.unsigned?_eq_some_iff.2 ⟨digits, hsign digits,
        Text.isDigits_iff.2 ⟨hnonempty, hall⟩, rfl⟩
      rw [isRange, Text.splitOnce?_append (hslash address haddress)]
      dsimp only
      rw [haddress, hlength, Option.any_some, decide_eq_true hle]
      rfl
    rintro (h | h)
    · exact hwritten [] (fun digits => .inl rfl) h
    · exact hwritten ['+'] (fun digits => .inr rfl) h

end Address

namespace Formats

open Address

/-- A text has the format of a range exactly if it is an address, a slash and a length that is
written in digits and not too large, where a plus sign may stand before the digits. -/
theorem check?_range_iff (text : String) :
    (builtin.check? "ipv4_cidr" text = some true ↔
      WritesRange isIPv4 32 [] text.toList ∨ WritesRange isIPv4 32 ['+'] text.toList) ∧
    (builtin.check? "ipv6_cidr" text = some true ↔
      WritesRange isIPv6 128 [] text.toList ∨ WritesRange isIPv6 128 ['+'] text.toList) ∧
    (builtin.check? "cidr" text = some true ↔
      builtin.check? "ipv4_cidr" text = some true ∨
      builtin.check? "ipv6_cidr" text = some true) := by
  have hIPv4 : builtin.check? "ipv4_cidr" text = some (isIPv4Range text.toList) := rfl
  have hIPv6 : builtin.check? "ipv6_cidr" text = some (isIPv6Range text.toList) := rfl
  have heither : builtin.check? "cidr" text =
      some (isIPv4Range text.toList || isIPv6Range text.toList) := rfl
  rw [heither, hIPv4, hIPv6, Option.some_inj, Option.some_inj, Option.some_inj, Bool.or_eq_true]
  exact ⟨isRange_iff fun _ => slash_notMem_of_isIPv4, isRange_iff fun _ =>
    slash_notMem_of_isIPv6, Iff.rfl⟩

/-- A length with a plus sign passes, although it is not a run of digits. -/
theorem check?_signedLength : builtin.check? "ipv4_cidr" "10.0.0.0/+24" = some true ∧
    ¬ WritesRange isIPv4 32 [] "10.0.0.0/+24".toList := by
  refine ⟨by decide +kernel, ?_⟩
  rintro ⟨address, digits, htext, haddress, -, hall, -⟩
  have hplus : '+' ∈ address ++ '/' :: ([] ++ digits) := htext ▸ by decide
  rw [List.nil_append, List.mem_append, List.mem_cons] at hplus
  rcases hplus with hmem | hslash | hmem
  · exact absurd (isAddressChar_of_isIPv4 haddress '+' hmem) (by decide)
  · exact absurd hslash (by decide)
  · exact absurd (hall '+' hmem) (by decide)

end Formats

end DataSchema
