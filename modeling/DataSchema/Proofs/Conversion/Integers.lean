import DataSchema.Proofs.Conversion.Faithful
import DataSchema.Proofs.Text.Numeral

/-!
# Integers and their texts

A text is read as an integer exactly if it is a numeral of a signed word. The sign is looked at
apart from the digits, and there is one number more behind a minus sign than without, so both ends
of the range are read. What an integer is printed as is one of its numerals, so an integer that was
converted to a text is read back.
-/

namespace DataSchema

theorem Document.compact_int (i : Int) : (Document.int i).compact = toString i := by
  rw [compact, compactChars, ← Text.toList_toString, String.ofList_toList]

namespace Conversion

/-! ### Reading -/

variable {text : String} {digits : List Char} {i : Int}

theorem parseInt?_of_minus (htext : text.toList = '-' :: digits) : parseInt? text =
    if Text.isDigits digits = true ∧ Text.naturalValue digits ≤ signedCount then
      some (-(Text.naturalValue digits : Int))
    else none := by
  rw [parseInt?, htext]
  cases hdigits : Text.isDigits digits <;> simp [hdigits]

theorem parseInt?_of_no_minus (htext : ∀ digits, text.toList ≠ '-' :: digits) : parseInt? text =
    if Text.isDigits text.toList = true ∧ Text.naturalValue text.toList < signedCount then
      some (Text.naturalValue text.toList : Int)
    else none := by
  rw [parseInt?]
  split
  rename_i negative digits hsplit
  split at hsplit
  · rename_i rest heq
    exact absurd heq (htext rest)
  · cases hsplit
    cases Text.isDigits text.toList <;> simp

theorem parseInt?_eq_some_iff : parseInt? text = some i ↔ Text.DenotesWord text.toList i := by
  have hcount : (signedCount : Int) = 0x8000000000000000 := rfl
  rw [Text.denotesWord_iff]
  by_cases hminus : ∃ digits, text.toList = '-' :: digits
  · obtain ⟨digits, htext⟩ := hminus
    rw [parseInt?_of_minus htext, htext, Text.denotes_minus_iff, Option.ite_none_right_eq_some,
      Option.some_inj]
    constructor
    · rintro ⟨⟨hdigits, hle⟩, rfl⟩
      exact ⟨⟨hdigits, rfl⟩, by omega, by omega⟩
    · rintro ⟨⟨hdigits, rfl⟩, hlower, -⟩
      exact ⟨⟨hdigits, by omega⟩, rfl⟩
  · have hnone : ∀ digits, text.toList ≠ '-' :: digits := fun digits htext => hminus ⟨digits, htext⟩
    rw [parseInt?_of_no_minus hnone, Text.denotes_iff hnone, Option.ite_none_right_eq_some,
      Option.some_inj]
    constructor
    · rintro ⟨⟨hdigits, hlt⟩, rfl⟩
      exact ⟨⟨hdigits, rfl⟩, by omega, by omega⟩
    · rintro ⟨⟨hdigits, rfl⟩, -, hupper⟩
      exact ⟨⟨hdigits, by omega⟩, rfl⟩

theorem parseInt?_eq_none_iff : parseInt? text = none ↔ ¬∃ i, Text.DenotesWord text.toList i := by
  rw [Option.eq_none_iff_forall_ne_some, not_exists]
  exact forall_congr' fun i => not_congr parseInt?_eq_some_iff

/-! ### Converting -/

/-- Converting an instance leaves the result at the path, and what it notes there and
below are the attempts. -/
structure MakesAt (root : Node) (maxDepth : Nat) (value : Document) (path : Path)
    (result : Document) (attempts : List Attempt) : Prop where
  left : (root.convert maxDepth 0 value).1.atPath? path = some result
  noted : Note.about path (root.convert maxDepth 0 value).2 = attempts.map (Note.mk path)

variable {root node : Node} {maxDepth : Nat} {value inner result : Document} {path : Path}

/-- What becomes of a scalar that may be converted does not depend on its place. -/
theorem makesAt_of_convertScalar (hvalue : value.WellFormed)
    (hnode : root.governing? path = some node) (hpath : path.length ≤ maxDepth)
    (hinner : value.atPath? path = some inner) (hkind : node.kind ∈ [Kind.str, .int, .bool])
    (hallowed : isAllowed node inner = true) {attempt : Attempt}
    (hscalar : convertScalar node inner = (result, [⟨[], attempt⟩])) :
    MakesAt root maxDepth value path result [attempt] := by
  have hshape := shape_mem_of_isAllowed hallowed
  have hnull : inner ≠ .null := by
    rintro rfl
    simp [Document.shape] at hshape
  have hconvert : root.convertBelow maxDepth 0 path inner = (result, [⟨[], attempt⟩]) := by
    rw [Node.convertBelow_of_governing? hnode, Nat.zero_add,
      Node.convert_scalar hpath hnull (isContainer_of_shape_mem hshape), if_pos hkind, hscalar]
  obtain ⟨hleft, hnoted⟩ := Node.convert_at hvalue hinner
  rw [hconvert] at hleft hnoted
  refine ⟨hleft, hnoted.trans ?_⟩
  rw [List.map_singleton, List.map_singleton, Note.under, List.append_nil]

theorem isAllowed_string (hkind : node.kind = .int) (htypes : node.attributes.convertTypes = none)
    (text : String) :
    isAllowed node (.string text) = true := by
  rw [isAllowed, htypes, hkind]
  rfl

theorem isAllowed_int (htypes : node.attributes.convertTypes = some [.int]) (i : Int) :
    isAllowed node (.int i) = true := by
  rw [isAllowed, htypes]
  rfl

theorem convertScalar_of_denotesWord (hkind : node.kind = .int)
    (htypes : node.attributes.convertTypes = none) (htext : Text.DenotesWord text.toList i) :
    convertScalar node (.string text) = (.int i, [⟨[], .converted (.string text) .int⟩]) := by
  have hcoerce : coerce? node.kind (.string text) = some (.int i) := by
    rw [hkind, coerce?, parseInt?_eq_some_iff.2 htext]
    rfl
  rw [convertScalar_of_coerce?_eq_some (by rw [hkind]; rfl) (isAllowed_string hkind htypes text)
    hcoerce, hkind]

theorem convertScalar_of_not_denotesWord (hkind : node.kind = .int)
    (htypes : node.attributes.convertTypes = none) (htext : ¬∃ i, Text.DenotesWord text.toList i) :
    convertScalar node (.string text) = (.string text, [⟨[], .failed (.string text) .int⟩]) := by
  have hcoerce : coerce? node.kind (.string text) = none := by
    rw [hkind, coerce?, parseInt?_eq_none_iff.2 htext]
    rfl
  rw [convertScalar_of_coerce?_eq_none (by rw [hkind]; rfl) (isAllowed_string hkind htypes text)
    hcoerce, hkind]

theorem convertScalar_int (hkind : node.kind = .str)
    (htypes : node.attributes.convertTypes = some [.int]) (i : Int) :
    convertScalar node (.int i) = (.string (toString i), [⟨[], .converted (.int i) .str⟩]) := by
  have hcoerce : coerce? node.kind (.int i) = some (.string (toString i)) := by
    rw [hkind, coerce?, Document.compact_int]
  rw [convertScalar_of_coerce?_eq_some (by rw [hkind]; rfl) (isAllowed_int htypes i) hcoerce, hkind]

end Conversion

open Conversion

/-- The texts that are read as integers are the numerals of signed words, and what a word is
printed as is one of them. So, wherever in an instance that conversion gets to, an integer node
that does not say what it converts from makes the integer of each such text and fails on every
other, which stays; and a text node that converts from integers makes of an integer the text
that it is read back from. -/
theorem Node.integers_converted_exactly :
    (∀ (text : String) (i : Int), parseInt? text = some i ↔ Text.DenotesWord text.toList i) ∧
    (∀ i : Int, -0x8000000000000000 ≤ i → i < 0x8000000000000000 →
      Text.DenotesWord (toString i).toList i) ∧
    ∀ {root node : Node} {value : Document} {path : Path} (maxDepth : Nat), value.WellFormed →
      root.governing? path = some node → path.length ≤ maxDepth →
      (node.kind = .int → node.attributes.convertTypes = none →
        ∀ text, value.atPath? path = some (.string text) →
        (∀ i, Text.DenotesWord text.toList i →
          MakesAt root maxDepth value path (.int i) [.converted (.string text) .int]) ∧
        ((¬∃ i, Text.DenotesWord text.toList i) →
          MakesAt root maxDepth value path (.string text) [.failed (.string text) .int])) ∧
      (node.kind = .str → node.attributes.convertTypes = some [.int] →
        ∀ i, value.atPath? path = some (.int i) →
        MakesAt root maxDepth value path (.string (toString i)) [.converted (.int i) .str]) := by
  refine ⟨fun text i => parseInt?_eq_some_iff, fun i hlower hupper =>
    ⟨Text.denotes_toString i, hlower, hupper⟩, ?_⟩
  intro root node value path maxDepth hvalue hnode hpath
  constructor
  · intro hkind htypes text htext
    have hmakes : ∀ {result : Document} {attempt : Attempt},
        convertScalar node (.string text) = (result, [⟨[], attempt⟩]) →
          MakesAt root maxDepth value path result [attempt] :=
      makesAt_of_convertScalar hvalue hnode hpath htext (by simp [hkind])
        (isAllowed_string hkind htypes text)
    constructor
    · intro i hdenotes
      exact hmakes (convertScalar_of_denotesWord hkind htypes hdenotes)
    · intro hnone
      exact hmakes (convertScalar_of_not_denotesWord hkind htypes hnone)
  · intro hkind htypes i hint
    exact makesAt_of_convertScalar hvalue hnode hpath hint (by simp [hkind])
      (isAllowed_int htypes i)
      (convertScalar_int hkind htypes i)

def offsetsDocument : Document :=
  .object [("type", .string "dict"), ("keys", .object [
    ("offsets", .object [("type", .string "list"), ("items", .object [("type", .string "int")])]),
    ("label", .object [("type", .string "str"), ("convert_types", .array [.string "int"])])])]

def looseOffsets : Document :=
  .object [
    ("offsets", .array [.string "-9223372036854775808", .string "9223372036854775808",
      .string "-00", .string "-"]),
    ("label", .int (-9223372036854775808))]

/-- The lowest word is read, and printed as the same text; its positive counterpart and a sign
alone stay as they are. -/
theorem Node.integers_converted_exactly_offsets :
    looseOffsets.WellFormed ∧ ∃ root, ofDocument? offsetsDocument = some root ∧
    MakesAt root 2 looseOffsets [.key "offsets", .index 0] (.int (-9223372036854775808))
      [.converted (.string "-9223372036854775808") .int] ∧
    MakesAt root 2 looseOffsets [.key "offsets", .index 1] (.string "9223372036854775808")
      [.failed (.string "9223372036854775808") .int] ∧
    MakesAt root 2 looseOffsets [.key "offsets", .index 2]
      (.int 0) [.converted (.string "-00") .int] ∧
    MakesAt root 2 looseOffsets [.key "offsets", .index 3]
      (.string "-") [.failed (.string "-") .int] ∧
    MakesAt root 2 looseOffsets [.key "label"] (.string "-9223372036854775808")
      [.converted (.int (-9223372036854775808)) .str] := by
  obtain ⟨hread, -, hmakes⟩ := Node.integers_converted_exactly
  have hoffsets : looseOffsets.WellFormed := by
    simp [looseOffsets, Document.WellFormed, Document.WellFormedEntries,
      Document.WellFormedElements]
  have hrun : (ofDocument? offsetsDocument).any (fun root =>
      (root.governing? [.key "offsets", .index 0]).any (fun node => node.kind = .int &&
        node.attributes.convertTypes = none) &&
      (root.governing? [.key "label"]).any (fun node => node.kind = .str &&
        node.attributes.convertTypes = some [.int])) = true := by
    decide +kernel
  obtain ⟨root, hroot, htest⟩ := (Option.any_eq_true _ _).1 hrun
  simp only [Bool.and_eq_true, Option.any_eq_true, decide_eq_true_eq] at htest
  obtain ⟨⟨item, hitem, hint, hnone⟩, ⟨label, hlabel, hstr, htypes⟩⟩ := htest
  have hplace : ∀ position, root.governing? [.key "offsets", .index position] = some item :=
    fun _ => hitem
  refine ⟨hoffsets, root, hroot, ?_, ?_, ?_, ?_, ?_⟩
  · exact ((hmakes 2 hoffsets (hplace 0) (by decide)).1 hint hnone _ rfl).1 _
      ((hread _ _).1 (by decide +kernel))
  · exact ((hmakes 2 hoffsets (hplace 1) (by decide)).1 hint hnone _ rfl).2
      (parseInt?_eq_none_iff.1 (by decide +kernel))
  · exact ((hmakes 2 hoffsets (hplace 2) (by decide)).1 hint hnone _ rfl).1 _
      ((hread _ _).1 (by decide +kernel))
  · exact ((hmakes 2 hoffsets (hplace 3) (by decide)).1 hint hnone _ rfl).2
      (parseInt?_eq_none_iff.1 (by decide +kernel))
  · exact (hmakes 2 hoffsets hlabel (by decide)).2 hstr htypes _ rfl

end DataSchema
