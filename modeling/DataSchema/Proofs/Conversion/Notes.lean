import Mathlib.Data.List.Sigma
import DataSchema.Conversion
import DataSchema.Proofs.Document.Entries
import DataSchema.Proofs.Text.LowerCase
import DataSchema.Proofs.Validation.Places

/-!
# What the notes of a conversion say

Conversion attempts something on scalars alone, at most once to change the kind and once to
lower-case. A change of kind gives a value of the kind of the node, and a value that cannot be
changed stays as it is. The notes follow the order of the instance: those of an entry or element
carry its key or index in front.
-/

namespace DataSchema

open Conversion

/-! ### Scalars -/

theorem Kind.ne_null_of_admits {kind : Kind} {value : Document} (h : kind.admits value = true) :
    value ≠ .null := by
  rintro rfl
  cases kind <;> cases h

theorem Kind.wellFormed_of_admits {kind : Kind} {value : Document}
    (hkind : kind ∈ [Kind.str, .int, .bool]) (h : kind.admits value = true) : value.WellFormed := by
  cases value with
  | array | object => cases kind <;> simp [Kind.admits] at h hkind
  | _ => trivial

namespace Conversion

variable {node : Node} {value converted : Document}

theorem admits_coerce? {target : Kind} (h : coerce? target value = some converted) :
    target.admits converted = true := by
  unfold coerce? at h
  split at h
  · obtain ⟨i, -, rfl⟩ := Option.map_eq_some_iff.1 h
    rfl
  · obtain ⟨b, -, rfl⟩ := Option.map_eq_some_iff.1 h
    rfl
  · cases h
    rfl
  · cases h
    rfl
  · cases h

theorem lowerCase_of_not_admits (h : node.kind.admits value = false) :
    lowerCase node value = (value, []) := by
  unfold lowerCase
  split
  · cases h
  · rfl

theorem lowerCase_coerce? (h : coerce? node.kind value = some converted) :
    lowerCase node converted = (converted, []) := by
  cases node with
  | str a c =>
    have hsame : ∃ text, converted = .string text ∧ Text.lowercase text = text := by
      cases value with
      | int i =>
        cases h
        exact ⟨_, rfl, Text.lowercase_integer i⟩
      | bool b =>
        cases h
        exact ⟨_, rfl, by cases b <;> decide +kernel⟩
      | _ => cases h
    obtain ⟨text, rfl, hlower⟩ := hsame
    simp [lowerCase, hlower]
  | _ => rfl

theorem convertScalar_of_coerce?_eq_some (hkind : node.kind.admits value = false)
    (hallowed : isAllowed node value = true) (hcoerce : coerce? node.kind value = some converted) :
    convertScalar node value = (converted, [⟨[], .converted value node.kind⟩]) := by
  have hfirst : convertKind node value = (converted, [.converted value node.kind]) := by
    rw [convertKind, hkind, hallowed, hcoerce]
    rfl
  rw [convertScalar, hfirst]
  simp only [lowerCase_coerce? hcoerce]
  rfl

theorem convertScalar_of_coerce?_eq_none (hkind : node.kind.admits value = false)
    (hallowed : isAllowed node value = true) (hcoerce : coerce? node.kind value = none) :
    convertScalar node value = (value, [⟨[], .failed value node.kind⟩]) := by
  have hfirst : convertKind node value = (value, [.failed value node.kind]) := by
    rw [convertKind, hkind, hallowed, hcoerce]
    rfl
  rw [convertScalar, hfirst]
  simp only [lowerCase_of_not_admits hkind]
  rfl

/-- What became of a scalar, and what was attempted on it. -/
inductive Outcome (node : Node) (value : Document) : Document → List Attempt → Prop
  | kept (h : node.kind.admits value = true ∨ isAllowed node value = false) :
      Outcome node value value []
  | failed (hkind : node.kind.admits value = false) (hallowed : isAllowed node value = true) :
      Outcome node value value [.failed value node.kind]
  | converted {result} (hkind : node.kind.admits value = false)
      (hallowed : isAllowed node value = true)
      (hresult : node.kind.admits result = true) : Outcome node value result
        [.converted value node.kind]
  | lowered {text} (hkind : node.kind = .str) (hvalue : value = .string text)
      (hchanged : Text.lowercase text ≠ text) :
      Outcome node value (.string (Text.lowercase text)) [.lowered text]

/-- A scalar is turned into one of the kind of its node, or put in lower case, or stays as it is. -/
theorem exists_outcome (node : Node) (value : Document) : ∃ result attempts,
    convertScalar node value = (result, attempts.map fun attempt => ⟨[], attempt⟩) ∧
    Outcome node value result attempts := by
  cases hadmits : node.kind.admits value with
  | true =>
    have hkind : convertKind node value = (value, []) := by rw [convertKind, if_pos hadmits]
    rw [convertScalar, hkind]
    cases node with
    | str a c =>
      cases value with
      | string text =>
        by_cases hlower : (c.ignoresCase && Text.lowercase text != text) = true
        · have hchanged : Text.lowercase text ≠ text := by
            simpa using (Bool.and_eq_true_iff.1 hlower).2
          exact ⟨_, _, by simp only [lowerCase, if_pos hlower]; rfl, .lowered rfl rfl hchanged⟩
        · exact ⟨_, _, by simp only [lowerCase, if_neg hlower]; rfl, .kept (.inl hadmits)⟩
      | _ => cases hadmits
    | _ => exact ⟨_, _, rfl, .kept (.inl hadmits)⟩
  | false =>
    cases hallowed : isAllowed node value with
    | false =>
      have hkind : convertKind node value = (value, []) := by
        rw [convertKind, hadmits, hallowed]
        rfl
      refine ⟨_, _, ?_, .kept (.inr hallowed)⟩
      rw [convertScalar, hkind]
      simp only [lowerCase_of_not_admits hadmits]
      rfl
    | true =>
      cases hcoerce : coerce? node.kind value with
      | some converted =>
        have hrun := convertScalar_of_coerce?_eq_some hadmits hallowed hcoerce
        exact ⟨converted, [.converted value node.kind], hrun,
          .converted hadmits hallowed (admits_coerce? hcoerce)⟩
      | none =>
        have hrun := convertScalar_of_coerce?_eq_none hadmits hallowed hcoerce
        exact ⟨value, [.failed value node.kind], hrun, .failed hadmits hallowed⟩

theorem convertScalar_cases (node : Node) (value : Document) :
    (node.kind.admits (convertScalar node value).1 = true ∧
      ∀ note ∈ (convertScalar node value).2, note.path = [] ∧ note.attempt.isFailure = false) ∨
    node.kind.admits value = false ∧
      convertScalar node value = (value, if isAllowed node value then
        [⟨[], .failed value node.kind⟩] else []) := by
  obtain ⟨result, attempts, hrun, houtcome⟩ := exists_outcome node value
  rw [hrun]
  cases houtcome with
  | kept h =>
    cases hadmits : node.kind.admits value with
    | true => exact .inl ⟨rfl, by simp⟩
    | false =>
      have hallowed : isAllowed node value = false := h.resolve_left (by simp [hadmits])
      exact .inr ⟨rfl, by rw [hallowed]; rfl⟩
  | failed hkind hallowed => exact .inr ⟨hkind, by rw [hallowed]; rfl⟩
  | converted _ _ hresult => exact .inl ⟨hresult, by simp [Attempt.isFailure]⟩
  | lowered hkind => exact .inl ⟨by rw [hkind]; rfl, by simp [Attempt.isFailure]⟩

theorem Outcome.admits {result : Document} {attempt : Attempt}
    (h : Outcome node value result [attempt]) (hdone : attempt.isFailure = false) :
    node.kind.admits result = true := by
  cases h with
  | failed => cases hdone
  | converted _ _ hresult => exact hresult
  | lowered hkind => rw [hkind, Kind.admits]

end Conversion

/-! ### Containers -/

namespace Node

variable {maxDepth depth : Nat}

theorem convert_scalar (hdepth : depth ≤ maxDepth) {node : Node} {value : Document}
    (hnull : value ≠ .null) (hscalar : value.shape.isContainer = false) :
    node.convert maxDepth depth value =
      if node.kind ∈ [Kind.str, .int, .bool] then convertScalar node value else (value, []) := by
  rw [convert.eq_def]
  cases value with
  | null => exact absurd rfl hnull
  | array | object => cases hscalar
  | bool | int | float | string =>
    simp only [if_neg (Nat.not_lt.2 hdepth)]
    cases node <;> rfl

def convertAt (maxDepth depth : Nat) (node : Node) (key : String) (value : Document) :
    Document × List Note :=
  match node.child? key with
  | some child => child.convert maxDepth depth value
  | none => (value, [])

theorem convertEntries_eq (node : Node) (entries : Entries Document) :
    convertEntries maxDepth depth node entries =
      (entries.map fun entry => (entry.1, (node.convertAt maxDepth depth entry.1 entry.2).1),
      entries.flatMap fun entry => (node.convertAt maxDepth depth entry.1 entry.2).2.map
        (Note.below (.key entry.1))) := by
  induction entries with
  | nil => rfl
  | cons entry rest ih =>
    rw [convertEntries, List.map_cons, List.flatMap_cons, ih, convertAt]
    cases node.child? entry.1 <;> rfl

theorem convertElements_eq (item : Node) (index : Nat) (values : List Document) :
    convertElements maxDepth depth item index values =
      (values.map fun value => (item.convert maxDepth depth value).1,
      (values.zipIdx index).flatMap fun place =>
        (item.convert maxDepth depth place.1).2.map (Note.below (.index place.2))) := by
  induction values generalizing index with
  | nil => rfl
  | cons value rest ih =>
    rw [convertElements, List.map_cons, List.zipIdx_cons, List.flatMap_cons, ih]

/-- A node that is no dict governs no key, so the equation holds for every node. -/
theorem convert_object_eq (hdepth : depth ≤ maxDepth) (node : Node) (entries : Entries Document) :
    node.convert maxDepth depth (.object entries) =
      (.object (entries.map fun entry =>
        (entry.1, (node.convertAt maxDepth (depth + 1) entry.1 entry.2).1)),
      entries.flatMap fun entry =>
        (node.convertAt maxDepth (depth + 1) entry.1 entry.2).2.map
          (Note.below (.key entry.1))) := by
  rw [convert.eq_def]
  simp only [if_neg (Nat.not_lt.2 hdepth)]
  cases node with
  | dict => simp only [convertEntries_eq]
  | _ => simp [convertAt, child?]

theorem convert_array_eq (hdepth : depth ≤ maxDepth) {a : Attributes} {item : Node}
    {c : ListConstraints} (values : List Document) :
    (list a (some item) c).convert maxDepth depth (.array values) =
      (.array (values.map fun value => (item.convert maxDepth (depth + 1) value).1),
      values.zipIdx.flatMap fun place =>
        (item.convert maxDepth (depth + 1) place.1).2.map (Note.below (.index place.2))) := by
  rw [convert.eq_def]
  simp only [if_neg (Nat.not_lt.2 hdepth), convertElements_eq]

theorem convert_null (node : Node) : node.convert maxDepth depth .null = (.null, []) := by
  rw [convert.eq_def]

/-- The value is null, or its node has no schema for what it holds. -/
def LeavesAlone (node : Node) : Document → Prop
  | .null => True
  | .object _ => node.kind ≠ .dict
  | .array _ => node.items? = none
  | _ => False

theorem convert_of_leavesAlone {node : Node} {value : Document} (h : node.LeavesAlone value) :
    node.convert maxDepth depth value = (value, []) := by
  cases value with
  | null => exact convert_null node
  | object entries =>
    rw [convert.eq_def]
    cases node with
    | dict => exact absurd rfl h
    | _ => simp
  | array values =>
    rw [convert.eq_def]
    cases node with
    | list a items c =>
      cases (h : items = none)
      simp
    | _ => simp
  | _ => cases h

theorem convert_of_deep {node : Node} (value : Document) (h : maxDepth < depth) :
    node.convert maxDepth depth value = (value, []) := by
  rw [convert.eq_def]
  cases value with
  | null => rfl
  | _ => simp only [if_pos h]

theorem convert_of_untouched {node : Node} {value : Document}
    (h : maxDepth < depth ∨ node.LeavesAlone value) :
    node.convert maxDepth depth value = (value, []) :=
  h.elim (convert_of_deep value) convert_of_leavesAlone

/-- What holds of values that conversion does not touch and of scalars, and of a list or dict when
it holds of what their schemas govern, holds of every instance. -/
theorem convert_recursion (maxDepth : Nat) {motive : Nat → Node → Document → Prop}
    (untouched : ∀ {depth node value}, maxDepth < depth ∨ node.LeavesAlone value →
      motive depth node value) (scalar : ∀ {depth node value}, depth ≤ maxDepth → value ≠ .null →
      value.shape.isContainer = false →
      motive depth node value)
    (list : ∀ {depth a item c values}, depth ≤ maxDepth →
      (∀ value ∈ values, motive (depth + 1) item value) →
      motive depth (.list a (some item) c) (.array values))
    (dict : ∀ {depth a keys dynamicKeys other} {entries : Entries Document}, depth ≤ maxDepth →
      (∀ entry ∈ entries, ∀ child, (Node.dict a keys dynamicKeys other).child? entry.1 =
        some child →
        motive (depth + 1) child entry.2) → motive depth (.dict a keys dynamicKeys other) (.object
          entries)) (depth : Nat) (node : Node) (value : Document) : motive depth node value := by
  induction value generalizing node depth with
  | null => exact untouched (.inr trivial)
  | bool | int | float | string =>
    rcases Nat.lt_or_ge maxDepth depth with hdeep | hdepth
    · exact untouched (.inl hdeep)
    · exact scalar hdepth (by simp) rfl
  | array values ih =>
    rcases Nat.lt_or_ge maxDepth depth with hdeep | hdepth
    · exact untouched (.inl hdeep)
    · cases hitems : node.items? with
      | none => exact untouched (.inr hitems)
      | some item =>
        cases node with
        | list a items c =>
          cases hitems
          exact list hdepth fun value hmem => ih value hmem _ item
        | _ => cases hitems
  | object entries ih =>
    rcases Nat.lt_or_ge maxDepth depth with hdeep | hdepth
    · exact untouched (.inl hdeep)
    · cases node with
      | dict a keys dynamicKeys other =>
        exact dict hdepth fun entry hentry child _ => ih entry hentry _ child
      | _ => exact untouched (.inr (by simp [LeavesAlone, kind]))

/-- In a well-formed instance the keys of a dict are pairwise different. -/
theorem convert_induction (maxDepth : Nat) {motive : Nat → Node → Document → Prop}
    (untouched : ∀ {depth node value}, maxDepth < depth ∨ node.LeavesAlone value →
      value.WellFormed → motive depth node value) (scalar : ∀ {depth node value}, depth ≤ maxDepth →
      value ≠ .null → value.shape.isContainer = false →
      motive depth node value)
    (list : ∀ {depth a item c values}, depth ≤ maxDepth →
      (∀ value ∈ values, motive (depth + 1) item value) →
      motive depth (.list a (some item) c) (.array values))
    (dict : ∀ {depth a keys dynamicKeys other} {entries : Entries Document}, depth ≤ maxDepth →
      (entries.map Prod.fst).Nodup → (∀ entry ∈ entries, entry.2.WellFormed) →
      (∀ entry ∈ entries, ∀ child, (Node.dict a keys dynamicKeys other).child? entry.1 =
        some child →
        motive (depth + 1) child entry.2) →
          motive depth (.dict a keys dynamicKeys other) (.object entries)) (depth : Nat)
        (node : Node) {value : Document} (hvalue : value.WellFormed) : motive depth node value := by
  refine convert_recursion maxDepth (motive := fun depth node value => value.WellFormed →
      motive depth node value)
    untouched (fun hdepth hnull hscalar _ => scalar hdepth hnull hscalar) ?list ?dict depth
      node value hvalue
  case list =>
    intro depth a item c values hdepth ih hvalue
    exact list hdepth fun value hmem =>
      ih value hmem (Document.wellFormed_array.1 hvalue value hmem)
  case dict =>
    intro depth a keys dynamicKeys other entries hdepth ih hvalue
    obtain ⟨hnodup, hvalues⟩ := Document.wellFormed_object.1 hvalue
    exact dict hdepth hnodup hvalues fun entry hentry child hchild =>
      ih entry hentry child hchild (hvalues entry hentry)

end Node

theorem Applicable.convert_induction {rules : Rules} {motive : Nat → Node → Document → Prop}
    (kept : ∀ {depth node value}, depth ≤ rules.maxDepth →
      node.LeavesAlone value → value.WellFormed → motive depth node value)
    (scalar : ∀ {depth node value}, depth ≤ rules.maxDepth → value ≠ .null →
      value.shape.isContainer = false →
      motive depth node value)
    (list : ∀ {depth a item c values}, depth < rules.maxDepth →
      (∀ value ∈ values, motive (depth + 1) item value) →
      motive depth (.list a (some item) c) (.array values))
    (dict : ∀ {depth a keys dynamicKeys other} {entries : Entries Document},
      depth ≤ rules.maxDepth →
      (entries.map Prod.fst).Nodup → (∀ entry ∈ entries, entry.2.WellFormed) →
      (∀ entry ∈ entries, ∀ child, (Node.dict a keys dynamicKeys other).child? entry.1 =
        some child →
        motive (depth + 1) child entry.2) → motive depth (.dict a keys dynamicKeys other)
          (.object entries)) {depth : Nat} {node : Node} {value : Document}
        (h : Applicable rules depth node) (hvalue : value.WellFormed) :
    motive depth node value := by
  revert h
  refine Node.convert_induction rules.maxDepth (motive := fun depth node value =>
      Applicable rules depth node → motive depth node value)
    ?untouched (fun hdepth hnull hscalar _ => scalar hdepth hnull hscalar) ?list ?dict
      depth node hvalue
  case untouched =>
    rintro depth node value (hdeep | hkept) hvalue h
    · exact absurd h.le_maxDepth (Nat.not_le.2 hdeep)
    · exact kept h.le_maxDepth hkept hvalue
  case list =>
    intro depth a item c values _ ih h
    have hitem := h.items? rfl
    exact list hitem.le_maxDepth fun value hmem => ih value hmem hitem
  case dict =>
    intro depth a keys dynamicKeys other entries hdepth hnodup hvalues ih h
    exact dict hdepth hnodup hvalues fun entry hentry child hchild =>
      ih entry hentry child hchild (h.child? hchild)

/-! ### Failures -/

namespace Conversion

def failures (notes : List Note) : List Path :=
  (notes.filter fun note => note.attempt.isFailure).map Note.path

theorem failures_map_below (segment : Segment) (notes : List Note) :
    failures (notes.map (Note.below segment)) = (failures notes).map (segment :: ·) := by
  rw [failures, failures, List.filter_map, List.map_map, List.map_map]
  rfl

theorem failures_flatMap {α : Type} (list : List α) (notes : α → List Note) :
    failures (list.flatMap notes) = list.flatMap fun a => failures (notes a) := by
  rw [failures, List.filter_flatMap, List.map_flatMap]
  rfl

theorem failures_eq_nil {notes : List Note} (h : ∀ note ∈ notes, note.attempt.isFailure = false) :
    failures notes = [] := by
  rw [failures, List.map_eq_nil_iff, List.filter_eq_nil_iff]
  exact fun note hnote => by simp [h note hnote]

end Conversion

theorem Path.nodup_flatMap_cons {α : Type} {list : List α} {segment : α → Segment}
    {paths : α → List Path} (hsegments : (list.map segment).Nodup)
    (hpaths : ∀ a ∈ list, (paths a).Nodup) :
    (list.flatMap fun a => (paths a).map (segment a :: ·)).Nodup := by
  rw [List.nodup_flatMap]
  refine ⟨fun a ha => (hpaths a ha).map List.cons_injective,
    (List.pairwise_map.1 hsegments).imp fun hne => ?_⟩
  refine List.disjoint_left.2 fun path hpath hpath' => ?_
  obtain ⟨rest, -, rfl⟩ := List.mem_map.1 hpath
  obtain ⟨rest', -, heq⟩ := List.mem_map.1 hpath'
  exact hne (List.cons.inj heq).1.symm

theorem Segment.nodup_keys {entries : Entries Document} (hkeys : (entries.map Prod.fst).Nodup) :
    (entries.map fun entry => Segment.key entry.1).Nodup := by
  have hsegments := hkeys.map (f := Segment.key) fun _ _ heq => Segment.key.inj heq
  rwa [List.map_map] at hsegments

theorem Segment.nodup_indexes (values : List Document) :
    (values.zipIdx.map fun place => Segment.index place.2).Nodup := by
  have hsegments :=
    (List.nodup_zipIdx_map_snd values).map (f := Segment.index) fun _ _ heq => Segment.index.inj heq
  rwa [List.map_map] at hsegments

namespace Node

variable {maxDepth depth : Nat} {node : Node} {value : Document}

theorem nodup_paths (hvalue : value.WellFormed) :
    ((node.convert maxDepth depth value).2.map Note.path).Nodup := by
  have hbelow : ∀ (segment : Segment) (notes : List Note),
      (notes.map (Note.below segment)).map Note.path =
        (notes.map Note.path).map (segment :: ·) := by
    intro segment notes
    rw [List.map_map, List.map_map]
    rfl
  refine convert_induction maxDepth (motive := fun depth node value =>
      ((node.convert maxDepth depth value).2.map Note.path).Nodup)
    ?untouched ?scalar ?list ?dict depth node hvalue
  case untouched =>
    intro depth node value h _
    rw [convert_of_untouched h]
    exact List.nodup_nil
  case scalar =>
    intro depth node value hdepth hnull hscalar
    rw [convert_scalar hdepth hnull hscalar]
    split
    · obtain ⟨result, attempts, hrun, houtcome⟩ := exists_outcome node value
      rw [hrun]
      cases houtcome with
      | kept => exact List.nodup_nil
      | _ => exact List.nodup_singleton _
    · exact List.nodup_nil
  case list =>
    intro depth a item c values hdepth ih
    rw [convert_array_eq hdepth]
    simp only [List.map_flatMap, hbelow]
    refine Path.nodup_flatMap_cons (Segment.nodup_indexes values) fun place hplace => ih place.1 ?_
    exact List.mem_of_getElem? (List.mk_mem_zipIdx_iff_getElem?.1 hplace)
  case dict =>
    intro depth a keys dynamicKeys other entries hdepth hnodup _ ih
    rw [convert_object_eq hdepth]
    simp only [List.map_flatMap, hbelow]
    refine Path.nodup_flatMap_cons (Segment.nodup_keys hnodup) fun entry hentry => ?_
    unfold convertAt
    split
    · exact ih entry hentry _ ‹_›
    · exact List.nodup_nil

/-- Every note tells what became of a scalar that a scalar node governs, at
its path and not too deep. -/
theorem exists_of_mem_convert (hvalue : value.WellFormed) {note : Note}
    (hmem : note ∈ (node.convert maxDepth depth value).2) :
    ∃ target old new, node.governing? note.path = some target ∧
      target.kind ∈ [Kind.str, .int, .bool] ∧
      value.atPath? note.path = some old ∧
      (node.convert maxDepth depth value).1.atPath? note.path = some new ∧
      depth + note.path.length ≤ maxDepth ∧ Outcome target old new [note.attempt] := by
  revert note
  refine convert_induction maxDepth (motive := fun depth node value =>
    ∀ {note : Note}, note ∈ (node.convert maxDepth depth value).2 →
    ∃ target old new, node.governing? note.path = some target ∧
      target.kind ∈ [Kind.str, .int, .bool] ∧
      value.atPath? note.path = some old ∧
        (node.convert maxDepth depth value).1.atPath? note.path = some new ∧
      depth + note.path.length ≤ maxDepth ∧ Outcome target old new [note.attempt])
    ?untouched ?scalar ?list ?dict depth node hvalue
  case untouched =>
    intro depth node value h _ note hmem
    rw [convert_of_untouched h] at hmem
    cases hmem
  case scalar =>
    intro depth node value hdepth hnull hscalar note hmem
    rw [convert_scalar hdepth hnull hscalar] at hmem ⊢
    split at hmem
    · rename_i hkind
      rw [if_pos hkind]
      obtain ⟨result, attempts, hrun, houtcome⟩ := exists_outcome node value
      rw [hrun] at hmem ⊢
      obtain ⟨attempt, hattempt, rfl⟩ := List.mem_map.1 hmem
      have hsingle : attempts = [attempt] := by
        cases houtcome with
        | kept => cases hattempt
        | _ => rw [List.mem_singleton.1 hattempt]
      exact ⟨node, value, result, rfl, hkind, rfl, rfl, hdepth, hsingle ▸ houtcome⟩
    · cases hmem
  case list =>
    intro depth a item c values hdepth ih note hmem
    rw [convert_array_eq hdepth] at hmem ⊢
    obtain ⟨⟨inner, position⟩, hplace, hnote⟩ := List.mem_flatMap.1 hmem
    obtain ⟨below, hbelow, rfl⟩ := List.mem_map.1 hnote
    have hposition := List.mk_mem_zipIdx_iff_getElem?.1 hplace
    obtain ⟨target, old, new, htarget, hkind, hold, hnew, hlength, houtcome⟩ :=
      ih inner (List.mem_of_getElem? hposition) hbelow
    refine ⟨target, old, new, htarget, hkind, Option.bind_eq_some_iff.2 ⟨inner, hposition, hold⟩,
      Option.bind_eq_some_iff.2 ⟨_, ?_, hnew⟩, ?_, houtcome⟩
    · rw [List.getElem?_map, hposition, Option.map_some]
    · rw [Note.below, List.length_cons]
      omega
  case dict =>
    intro depth a keys dynamicKeys other entries hdepth hnodup _ ih note hmem
    rw [convert_object_eq hdepth] at hmem ⊢
    obtain ⟨entry, hentry, hnote⟩ := List.mem_flatMap.1 hmem
    obtain ⟨below, hbelow, rfl⟩ := List.mem_map.1 hnote
    have hlookup : entries.lookup entry.1 = some entry.2 := Entries.lookup_of_mem hnodup hentry
    unfold convertAt at hbelow
    split at hbelow
    · rename_i child hchild
      obtain ⟨target, old, new, htarget, hkind, hold, hnew, hlength, houtcome⟩ :=
        ih entry hentry child hchild hbelow
      refine ⟨target, old, new, Option.bind_eq_some_iff.2 ⟨child, hchild, htarget⟩, hkind,
        Option.bind_eq_some_iff.2 ⟨_, hlookup, hold⟩,
        Option.bind_eq_some_iff.2 ⟨_, ?_, hnew⟩, ?_, houtcome⟩
      · refine (Entries.lookup_map (fun key value => (convertAt maxDepth (depth + 1) _ key value).1)
          entries _).trans ?_
        rw [hlookup, Option.map_some, convertAt, hchild]
      · rw [Note.below, List.length_cons]
        omega
    · cases hbelow

end Node

theorem Conversion.nodup_failures {maxDepth depth : Nat} {node : Node} {value : Document}
    (hvalue : value.WellFormed) :
    (failures (node.convert maxDepth depth value).2).Nodup :=
  (Node.nodup_paths hvalue).sublist (List.filter_sublist.map _)

namespace Applicable

variable {rules : Rules} {depth : Nat} {node : Node} {value : Document}

theorem convert_wellFormed (h : Applicable rules depth node) (hvalue : value.WellFormed) :
    (node.convert rules.maxDepth depth value).1.WellFormed := by
  refine h.convert_induction (motive := fun depth node value =>
      (node.convert rules.maxDepth depth value).1.WellFormed)
    ?kept ?scalar ?list ?dict hvalue
  case kept =>
    intro depth node value _ hkept hwell
    rwa [Node.convert_of_leavesAlone hkept]
  case scalar =>
    intro depth node value hdepth hnull hscalar
    have hvalue : value.WellFormed := by
      cases value <;> trivial
    rw [Node.convert_scalar hdepth hnull hscalar]
    split
    · rename_i hkind
      rcases convertScalar_cases node value with ⟨hadmits, -⟩ | ⟨-, hfailed⟩
      · exact Kind.wellFormed_of_admits hkind hadmits
      · rwa [hfailed]
    · exact hvalue
  case list =>
    intro depth a item c values hdepth ih
    rw [Node.convert_array_eq (Nat.le_of_lt hdepth), Document.wellFormed_array, List.forall_mem_map]
    exact ih
  case dict =>
    intro depth a keys dynamicKeys other entries hdepth hnodup hvalues ih
    rw [Node.convert_object_eq hdepth, Document.wellFormed_object, List.map_map,
      List.forall_mem_map]
    refine ⟨hnodup, fun entry hentry => ?_⟩
    dsimp only
    unfold Node.convertAt
    split
    · exact ih entry hentry _ ‹_›
    · exact hvalues entry hentry

end Applicable

end DataSchema
