import DataSchema.Proofs.Conversion.Faithful

/-!
# Converting again

A scalar that conversion has changed is of the kind of its node and in lower case, so nothing is
left to do on it; one that it could not change is as it was, and fails again for the same reason. So
a second pass over an instance changes nothing, and what it notes are the failures of the first.
-/

namespace DataSchema

open Conversion

/-- A second pass leaves the value as the first did, and notes the failures of the first. -/
structure Conversion.Settles (pass : Document → Document × List Note) (value : Document) :
    Prop where
  kept : (pass (pass value).1).1 = (pass value).1
  repeated : (pass (pass value).1).2 = (pass value).2.filter fun note => note.attempt.isFailure

/-! ### Scalars -/

namespace Conversion

variable {node : Node} {value : Document}

theorem lowerCase_lowerCase (node : Node) (value : Document) :
    lowerCase node (lowerCase node value).1 = ((lowerCase node value).1, []) := by
  cases node with
  | str a c =>
    cases value with
    | string text =>
      by_cases hlower : (c.ignoresCase && Text.lowercase text != text) = true
      · simp only [lowerCase, if_pos hlower]
        simp [Text.lowercase_lowercase]
      · simp only [lowerCase, if_neg hlower]
    | _ => rfl
  | _ => rfl

theorem convertScalar_of_admits (hkind : node.kind.admits value = true)
    (hlower : lowerCase node value = (value, [])) :
    convertScalar node value = (value, []) := by
  rw [convertScalar, convertKind, if_pos hkind]
  dsimp only
  rw [hlower]
  rfl

theorem settles_of_eq_nil {pass : Document → Document × List Note} (h : pass value = (value, [])) :
    Settles pass value := by
  constructor <;> rw [h, h]
  rfl

/-- The second conversion of a scalar leaves it alone, and fails where the first did. -/
theorem settles_convertScalar (node : Node) (value : Document) :
    Settles (convertScalar node) value := by
  have hlower : lowerCase node (convertScalar node value).1 = ((convertScalar node value).1, []) :=
    lowerCase_lowerCase node (convertKind node value).1
  have hagain : convertScalar node (convertScalar node value).1 =
      ((convertScalar node value).1, (convertScalar node value).2.filter fun note =>
        note.attempt.isFailure) := by
    obtain ⟨result, attempts, hrun, houtcome⟩ := exists_outcome node value
    rw [hrun] at hlower ⊢
    cases houtcome with
    | kept | failed => exact hrun
    | converted _ _ hresult => exact convertScalar_of_admits hresult hlower
    | lowered hkind => exact convertScalar_of_admits (by rw [hkind, Kind.admits]) hlower
  constructor <;> rw [hagain]

end Conversion

/-! ### Instances -/

namespace Node

variable {maxDepth depth : Nat} {node : Node} {value : Document}

theorem filter_map_below (segment : Segment) (notes : List Note) :
    (notes.map (Note.below segment)).filter (fun note => note.attempt.isFailure) =
      (notes.filter fun note => note.attempt.isFailure).map (Note.below segment) := by
  rw [List.filter_map]
  rfl

theorem settles_scalar (hdepth : depth ≤ maxDepth) (hnull : value ≠ .null)
    (hscalar : value.shape.isContainer = false) :
    Settles (node.convert maxDepth depth) value := by
  have hrun : node.convert maxDepth depth value =
      if node.kind ∈ [Kind.str, .int, .bool] then convertScalar node value else (value, []) :=
    convert_scalar hdepth hnull hscalar
  by_cases hkind : node.kind ∈ [Kind.str, .int, .bool]
  · rw [if_pos hkind] at hrun
    have hresult : (convertScalar node value).1 ≠ .null ∧
        (convertScalar node value).1.shape.isContainer = false := by
      rcases convertScalar_cases node value with ⟨hadmits, -⟩ | ⟨-, hkept⟩
      · exact ⟨Kind.ne_null_of_admits hadmits, isContainer_of_admits hkind hadmits⟩
      · rw [hkept]
        exact ⟨hnull, hscalar⟩
    have hagain : node.convert maxDepth depth (convertScalar node value).1 =
        convertScalar node (convertScalar node value).1 := by
      rw [convert_scalar hdepth hresult.1 hresult.2, if_pos hkind]
    have hsettles : Settles (convertScalar node) value := settles_convertScalar node value
    constructor
    · rw [hrun, hagain, hsettles.kept]
    · rw [hrun, hagain, hsettles.repeated]
  · rw [if_neg hkind] at hrun
    exact settles_of_eq_nil hrun

theorem settles_convertAt {key : String}
    (h : ∀ child, node.child? key = some child → Settles (child.convert maxDepth depth) value) :
    Settles (node.convertAt maxDepth depth key) value := by
  cases hchild : node.child? key with
  | none => exact settles_of_eq_nil (by rw [convertAt, hchild])
  | some child =>
    have hsame : node.convertAt maxDepth depth key = child.convert maxDepth depth := by
      funext value
      rw [convertAt, hchild]
    rw [hsame]
    exact h child hchild

theorem settles_array {a : Attributes} {item : Node} {c : ListConstraints}
    {values : List Document} (hdepth : depth ≤ maxDepth)
    (h : ∀ value ∈ values, Settles (item.convert maxDepth (depth + 1)) value) :
    Settles ((list a (some item) c).convert maxDepth depth) (.array values) := by
  constructor
  · rw [convert_array_eq hdepth, convert_array_eq hdepth, List.map_map]
    exact congrArg Document.array (List.map_congr_left fun value hvalue => (h value hvalue).kept)
  · rw [convert_array_eq hdepth, convert_array_eq hdepth, List.zipIdx_map, List.flatMap_map,
      List.filter_flatMap]
    refine List.flatMap_congr fun place hplace => ?_
    have hmem : place.1 ∈ values := List.mem_of_getElem? (List.mk_mem_zipIdx_iff_getElem?.1 hplace)
    rw [filter_map_below, ← (h place.1 hmem).repeated]
    rfl

theorem settles_object {a : Attributes} {keys : Option (List (String × Node))}
    {dynamicKeys : Option Node} {other : Option Bool} {entries : Entries Document}
    (hdepth : depth ≤ maxDepth) (h : ∀ entry ∈ entries,
      Settles ((dict a keys dynamicKeys other).convertAt maxDepth (depth + 1) entry.1) entry.2) :
    Settles ((dict a keys dynamicKeys other).convert maxDepth depth) (.object entries) := by
  constructor
  · rw [convert_object_eq hdepth, convert_object_eq hdepth, List.map_map]
    refine congrArg Document.object (List.map_congr_left fun entry hentry => ?_)
    exact congrArg (Prod.mk entry.1) (h entry hentry).kept
  · rw [convert_object_eq hdepth, convert_object_eq hdepth, List.flatMap_map, List.filter_flatMap]
    refine List.flatMap_congr fun entry hentry => ?_
    rw [filter_map_below, ← (h entry hentry).repeated]

theorem settles_convert (maxDepth depth : Nat) (node : Node) (value : Document) :
    Settles (node.convert maxDepth depth) value := by
  refine convert_recursion maxDepth (motive := fun depth node value =>
      Settles (node.convert maxDepth depth) value)
    (fun h => settles_of_eq_nil (convert_of_untouched h)) settles_scalar settles_array ?dict
      depth node value
  case dict =>
    intro depth a keys dynamicKeys other entries hdepth ih
    exact settles_object hdepth fun entry hentry => settles_convertAt fun child hchild =>
      ih entry hentry child hchild

/-- Conversion is idempotent: converting what was converted changes nothing, and the notes are those
of the failures, in their order. -/
theorem convert_convert (node : Node) (maxDepth : Nat) (value : Document) :
    node.convert maxDepth 0 (node.convert maxDepth 0 value).1 =
      ((node.convert maxDepth 0 value).1, (node.convert maxDepth 0 value).2.filter fun note =>
        note.attempt.isFailure) := by
  have hsettles : Settles (node.convert maxDepth 0) value := settles_convert maxDepth 0 node value
  exact Prod.ext hsettles.kept hsettles.repeated

end Node

end DataSchema
