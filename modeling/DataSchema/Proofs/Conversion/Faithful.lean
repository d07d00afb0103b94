import DataSchema.Proofs.Conversion.Places

/-!
# Notes are a faithful difference

Conversion replaces scalars by scalars, so all containers stay, with their keys and lengths. What
the notes say is all that happens: a value is changed when a note of a conversion, and not of a
failure, has its path, and no path has two notes. That the two steps of a conversion, the change
of kind and the lower case, never both leave a note is due to the texts of integers and flags,
which have no capital letters.
-/

namespace DataSchema

open Conversion

/-! ### Containers without scalars -/

namespace Document

mutual

/-- The containers of a document with their keys and lengths; every scalar becomes null. -/
def skeleton : Document → Document
  | .array elements => .array (elementSkeletons elements)
  | .object entries => .object (entrySkeletons entries)
  | _ => .null

def elementSkeletons : List Document → List Document
  | [] => []
  | element :: rest => element.skeleton :: elementSkeletons rest

def entrySkeletons : List (String × Document) → List (String × Document)
  | [] => []
  | (key, value) :: rest => (key, value.skeleton) :: entrySkeletons rest

end

theorem skeleton_array (elements : List Document) :
    (array elements).skeleton = .array (elements.map skeleton) := by
  rw [skeleton]
  congr 1
  induction elements with
  | nil => rfl
  | cons element rest ih => rw [elementSkeletons, ih, List.map_cons]

theorem skeleton_object (entries : Entries Document) :
    (object entries).skeleton = .object (entries.map fun entry => (entry.1, entry.2.skeleton)) := by
  rw [skeleton]
  congr 1
  induction entries with
  | nil => rfl
  | cons entry rest ih => rw [entrySkeletons, ih, List.map_cons]

theorem skeleton_of_scalar {value : Document} (h : value.shape.isContainer = false) :
    value.skeleton = .null := by
  cases value <;> first | rfl | cases h

theorem eq_nil_of_atPath? {value inner : Document} {path : Path}
    (hscalar : value.shape.isContainer = false) (h : value.atPath? path = some inner) :
    path = [] := by
  cases path with
  | nil => rfl
  | cons segment rest => cases segment <;> cases value <;> first | cases h | cases hscalar

theorem eq_of_prefix {value old inner : Document} {path longer : Path}
    (hold : value.atPath? path = some old) (hscalar : old.shape.isContainer = false)
    (hbegins : path <+: longer) (hinner : value.atPath? longer = some inner) :
    longer = path := by
  obtain ⟨rest, rfl⟩ := hbegins
  rw [atPath?_append, hold, Option.bind_some] at hinner
  rw [eq_nil_of_atPath? hscalar hinner, List.append_nil]

theorem atPath?_skeleton (path : Path) (value : Document) :
    value.skeleton.atPath? path = (value.atPath? path).map skeleton := by
  induction path generalizing value with
  | nil => rfl
  | cons segment rest ih =>
    cases value with
    | object entries =>
      rw [skeleton_object]
      cases segment with
      | key name =>
        rw [atPath?, atPath?, get?, get?, Entries.lookup_map fun _ (value : Document) =>
          value.skeleton]
        cases entries.lookup name with
        | none => rfl
        | some value => exact ih value
      | index => rfl
    | array values =>
      rw [skeleton_array]
      cases segment with
      | key => rfl
      | index position =>
        rw [atPath?, atPath?, List.getElem?_map]
        cases values[position]? with
        | none => rfl
        | some value => exact ih value
    | _ => cases segment <;> rfl

end Document

/-! ### What became of a scalar -/

namespace Conversion

variable {node : Node} {value result : Document} {attempts : List Attempt} {attempt : Attempt}

theorem shape_mem_of_isAllowed (h : isAllowed node value = true) :
    value.shape ∈ [Shape.str, .int, .bool] := by
  unfold isAllowed at h
  cases value with
  | string | int | bool => simp [Document.shape]
  | _ => cases h

theorem isContainer_of_shape_mem (h : value.shape ∈ [Shape.str, .int, .bool]) :
    value.shape.isContainer = false := by
  cases value <;> first | rfl | simp [Document.shape] at h

theorem isContainer_of_admits (hkind : node.kind ∈ [Kind.str, .int, .bool])
    (h : node.kind.admits value = true) :
    value.shape.isContainer = false := by
  cases value with
  | array | object => cases hnode : node.kind <;> simp [hnode, Kind.admits] at h hkind
  | _ => rfl

namespace Outcome

theorem isContainer (h : Outcome node value result attempts)
    (hkind : node.kind ∈ [Kind.str, .int, .bool]) (hscalar : value.shape.isContainer = false) :
    result.shape.isContainer = false := by
  cases h with
  | converted _ _ hresult => exact isContainer_of_admits hkind hresult
  | lowered => rfl
  | _ => exact hscalar

theorem shape_mem (h : Outcome node value result [attempt]) :
    value.shape ∈ [Shape.str, .int, .bool] := by
  cases h with
  | failed _ hallowed => exact shape_mem_of_isAllowed hallowed
  | converted _ hallowed => exact shape_mem_of_isAllowed hallowed
  | lowered _ hvalue => simp [hvalue, Document.shape]

theorem source (h : Outcome node value result [attempt]) : attempt.source = value.shape := by
  cases h with
  | lowered _ hvalue =>
    rw [hvalue]
    rfl
  | _ => rfl

theorem target (h : Outcome node value result [attempt]) : attempt.target = node.kind := by
  cases h with
  | lowered hkind => exact hkind.symm
  | _ => rfl

theorem eq_of_failure (h : Outcome node value result attempts)
    (hfails : ∀ attempt ∈ attempts, attempt.isFailure = true) :
    result = value := by
  cases h with
  | kept | failed => rfl
  | converted => cases hfails _ (List.mem_singleton_self _)
  | lowered => cases hfails _ (List.mem_singleton_self _)

theorem ne_of_done (h : Outcome node value result [attempt]) (hdone : attempt.isFailure = false) :
    result ≠ value := by
  cases h with
  | failed => cases hdone
  | converted hkind _ hresult =>
    rintro rfl
    rw [hresult] at hkind
    cases hkind
  | lowered _ hvalue hchanged =>
    rw [hvalue]
    exact fun heq => hchanged (Document.string.inj heq)

end Outcome

end Conversion

/-! ### What became of an instance -/

namespace Node

variable {maxDepth depth : Nat} {node : Node} {value : Document}

theorem skeleton_convert (hvalue : value.WellFormed) :
    (node.convert maxDepth depth value).1.skeleton = value.skeleton := by
  refine convert_induction maxDepth
    (motive := fun depth node value => (node.convert maxDepth depth value).1.skeleton =
      value.skeleton)
    ?untouched ?scalar ?list ?dict depth node hvalue
  case untouched =>
    intro depth node value h _
    rw [convert_of_untouched h]
  case scalar =>
    intro depth node value hdepth hnull hscalar
    rw [convert_scalar hdepth hnull hscalar]
    split
    · rename_i hkind
      obtain ⟨result, attempts, hrun, houtcome⟩ := exists_outcome node value
      rw [hrun, Document.skeleton_of_scalar hscalar,
        Document.skeleton_of_scalar (houtcome.isContainer hkind hscalar)]
    · rfl
  case list =>
    intro depth a item c values hdepth ih
    rw [convert_array_eq hdepth, Document.skeleton_array, Document.skeleton_array, List.map_map]
    exact congrArg Document.array (List.map_congr_left ih)
  case dict =>
    intro depth a keys dynamicKeys other entries hdepth _ _ ih
    rw [convert_object_eq hdepth, Document.skeleton_object, Document.skeleton_object, List.map_map]
    refine congrArg Document.object (List.map_congr_left fun entry hentry =>
      congrArg (Prod.mk entry.1) ?_)
    change (convertAt _ _ _ entry.1 entry.2).1.skeleton = _
    unfold convertAt
    split
    · exact ih entry hentry _ ‹_›
    · rfl

theorem convert_fst_of_failures (maxDepth depth : Nat) (node : Node) (value : Document)
    (h : ∀ note ∈ (node.convert maxDepth depth value).2, note.attempt.isFailure = true) :
    (node.convert maxDepth depth value).1 = value := by
  revert h
  refine convert_recursion maxDepth (motive := fun depth node value =>
    (∀ note ∈ (node.convert maxDepth depth value).2, note.attempt.isFailure = true) →
      (node.convert maxDepth depth value).1 = value) ?untouched ?scalar ?list ?dict depth node value
  case untouched =>
    intro depth node value huntouched _
    rw [convert_of_untouched huntouched]
  case scalar =>
    intro depth node value hdepth hnull hscalar h
    rw [convert_scalar hdepth hnull hscalar] at h ⊢
    split at h
    · rename_i hkind
      rw [if_pos hkind]
      obtain ⟨result, attempts, hrun, houtcome⟩ := exists_outcome node value
      rw [hrun] at h ⊢
      exact houtcome.eq_of_failure fun attempt hattempt =>
        h ⟨[], attempt⟩ (List.mem_map_of_mem hattempt)
    · rename_i hkind
      rw [if_neg hkind]
  case list =>
    intro depth a item c values hdepth ih h
    rw [convert_array_eq hdepth] at h ⊢
    have hsame : ∀ value ∈ values, (item.convert maxDepth (depth + 1) value).1 = value := by
      intro value hmem
      obtain ⟨position, hposition⟩ := List.mem_iff_getElem?.1 hmem
      have hplace : (value, position) ∈ values.zipIdx := List.mk_mem_zipIdx_iff_getElem?.2 hposition
      refine ih value hmem fun note hnote => h (note.below (.index position)) ?_
      exact List.mem_flatMap.2 ⟨(value, position), hplace, List.mem_map_of_mem hnote⟩
    exact congrArg Document.array ((List.map_congr_left hsame).trans (List.map_id _))
  case dict =>
    intro depth a keys dynamicKeys other entries hdepth ih h
    rw [convert_object_eq hdepth] at h ⊢
    have hsame : ∀ entry ∈ entries,
        (entry.1, ((dict a keys dynamicKeys other).convertAt maxDepth
          (depth + 1) entry.1 entry.2).1) = entry := by
      intro entry hentry
      have hnotes : ∀ note ∈ ((dict a keys dynamicKeys other).convertAt maxDepth
            (depth + 1) entry.1 entry.2).2,
          note.attempt.isFailure = true := fun note hnote =>
        h (note.below (.key entry.1)) (List.mem_flatMap.2 ⟨entry, hentry,
          List.mem_map_of_mem hnote⟩)
      refine Prod.ext rfl ?_
      change (convertAt _ _ _ entry.1 entry.2).1 = entry.2
      unfold convertAt at hnotes ⊢
      split
      · rename_i child hchild
        rw [hchild] at hnotes
        exact ih entry hentry child hchild hnotes
      · rfl
    exact congrArg Document.object ((List.map_congr_left hsame).trans (List.map_id _))

/-- What stands at a path only changes when a note of a conversion is about the
place or what lies below it. -/
theorem atPath?_convert_of_failures (hvalue : value.WellFormed) {path : Path}
    (h : ∀ note ∈ (node.convert maxDepth depth value).2, path <+: note.path →
      note.attempt.isFailure = true) :
    (node.convert maxDepth depth value).1.atPath? path = value.atPath? path := by
  cases hinner : value.atPath? path with
  | none =>
    have hskeleton : (node.convert maxDepth depth value).1.skeleton = value.skeleton :=
      skeleton_convert hvalue
    have hnone := congrArg (Document.atPath? path) hskeleton
    rw [Document.atPath?_skeleton, Document.atPath?_skeleton, hinner] at hnone
    exact Option.map_eq_none_iff.1 hnone
  | some inner =>
    obtain ⟨hleft, hnoted⟩ := @convert_at maxDepth depth node value inner path hvalue hinner
    have hnotes : ∀ note ∈ (node.convertBelow maxDepth depth path inner).2,
        note.attempt.isFailure = true := by
      intro note hnote
      have habout : note.under path ∈ Note.about path (node.convert maxDepth depth value).2 :=
        hnoted ▸ List.mem_map_of_mem hnote
      obtain ⟨hmem, hbegins⟩ := List.mem_filter.1 habout
      exact h (note.under path) hmem (of_decide_eq_true hbegins)
    rw [hleft]
    unfold convertBelow at hnotes ⊢
    split
    · rename_i target htarget
      rw [htarget] at hnotes
      rw [convert_fst_of_failures maxDepth (depth + path.length) target inner hnotes]
    · rfl

theorem atPath?_convert_ne_iff (hvalue : value.WellFormed) (path : Path) :
    (node.convert maxDepth 0 value).1.atPath? path ≠ value.atPath? path ↔
      ∃ note ∈ (node.convert maxDepth 0 value).2, path <+: note.path ∧
        note.attempt.isFailure = false := by
  constructor
  · intro hne
    by_contra hnone
    refine hne (atPath?_convert_of_failures hvalue fun note hnote hbegins => ?_)
    by_contra hdone
    exact hnone ⟨note, hnote, hbegins, Bool.eq_false_iff.2 hdone⟩
  · rintro ⟨note, hnote, ⟨rest, hpath⟩, hdone⟩ hsame
    obtain ⟨target, old, new, -, -, hold, hnew, -, houtcome⟩ := exists_of_mem_convert hvalue hnote
    rw [← hpath, Document.atPath?_append] at hold hnew
    rw [hsame, hold] at hnew
    exact houtcome.ne_of_done hdone (Option.some.inj hnew).symm

end Node

/-! ### The difference that the notes are -/

/-- The notes of a conversion are the difference between an instance before and after it. -/
structure Faithful (node : Node) (maxDepth : Nat) (before after : Document) (notes : List Note) :
    Prop where
  /-- The containers stay, with their keys in order and their lengths. -/
  skeleton : after.skeleton = before.skeleton
  /-- A scalar is changed exactly when a note of a conversion has its path. -/
  changed : ∀ path old, before.atPath? path = some old → old.shape.isContainer = false →
    (after.atPath? path ≠ some old ↔ ∃ note ∈ notes, note.path = path ∧
      note.attempt.isFailure = false)
  /-- What stands at a path is changed exactly when a note of a conversion has
  that path or one below. -/
  differs : ∀ path, after.atPath? path ≠ before.atPath? path ↔
    ∃ note ∈ notes, path <+: note.path ∧ note.attempt.isFailure = false
  nodup : (notes.map Note.path).Nodup
  /-- A note is about a text, integer or flag that a node of a scalar kind
  governs, and names both kinds. -/
  about : ∀ note ∈ notes, ∃ target old new, node.governing? note.path = some target ∧
    target.kind ∈ [Kind.str, .int, .bool] ∧ before.atPath? note.path = some old ∧
      old.shape ∈ [Shape.str, .int, .bool] ∧
    note.attempt.source = old.shape ∧ note.attempt.target = target.kind ∧
      after.atPath? note.path = some new ∧
    if note.attempt.isFailure then new = old else new ≠ old ∧ target.kind.admits new = true
  /-- Nothing is changed where a conversion failed, where no node governs, deeper than
  the limit, and at nulls. -/
  untouched : ∀ path, (∃ note ∈ notes, note.path = path ∧ note.attempt.isFailure = true) ∨
    node.governing? path = none ∨
    maxDepth < path.length ∨ before.atPath? path = some .null →
      after.atPath? path = before.atPath? path

/-- Whatever the node, the limit and the instance are, the notes of the conversion are
the difference it made. -/
theorem Node.convert_faithful (node : Node) (maxDepth : Nat) {value : Document}
    (hvalue : value.WellFormed) :
    Faithful node maxDepth value (node.convert maxDepth 0 value).1
      (node.convert maxDepth 0 value).2 := by
  have hnodup : ((node.convert maxDepth 0 value).2.map Note.path).Nodup := nodup_paths hvalue
  have hdiffers := @atPath?_convert_ne_iff maxDepth node value hvalue
  constructor
  · exact skeleton_convert hvalue
  · intro path old hold hscalar
    rw [← hold, hdiffers]
    refine exists_congr fun note => and_congr_right fun hnote => and_congr_left fun _ =>
      ⟨fun hbegins => ?_, fun heq => ?_⟩
    · obtain ⟨_, inner, _, -, -, hinner, -⟩ := exists_of_mem_convert hvalue hnote
      exact Document.eq_of_prefix hold hscalar hbegins hinner
    · exact heq ▸ List.prefix_rfl
  · exact hdiffers
  · exact hnodup
  · intro note hnote
    obtain ⟨target, old, new, htarget, hkind, hold, hnew, -, houtcome⟩ :=
      exists_of_mem_convert hvalue hnote
    refine ⟨target, old, new, htarget, hkind, hold, houtcome.shape_mem, houtcome.source,
      houtcome.target, hnew, ?_⟩
    split
    · rename_i hfails
      exact houtcome.eq_of_failure (by simpa using hfails)
    · rename_i hdone
      rw [Bool.not_eq_true] at hdone
      exact ⟨houtcome.ne_of_done hdone, houtcome.admits hdone⟩
  · intro path huntouched
    by_contra hne
    obtain ⟨note, hnote, hbegins, hdone⟩ := (hdiffers path).1 hne
    obtain ⟨target, old, _, htarget, -, hold, -, hlength, houtcome⟩ :=
      exists_of_mem_convert hvalue hnote
    have hshape := houtcome.shape_mem
    rcases huntouched with ⟨failed, hfailed, rfl, hfails⟩ | hnone | hdeep | hnull
    · obtain ⟨_, first, _, -, -, hfirst, -, -, hfirstOutcome⟩ :=
        exists_of_mem_convert hvalue hfailed
      have hscalar := isContainer_of_shape_mem hfirstOutcome.shape_mem
      have hpath := Document.eq_of_prefix hfirst hscalar hbegins hold
      rw [List.inj_on_of_nodup_map hnodup hnote hfailed hpath, hfails] at hdone
      cases hdone
    · obtain ⟨rest, hpath⟩ := hbegins
      rw [← hpath, governing?_append, hnone] at htarget
      cases htarget
    · have hle := hbegins.length_le
      omega
    · rw [Document.eq_of_prefix hnull rfl hbegins hold, hnull] at hold
      cases hold
      simp [Document.shape] at hshape

def switchDocument : Document :=
  .object [("type", .string "dict"), ("keys", .object [
    ("platform", .object [("type", .string "str"), ("convert_to_lower_case", .bool true)]),
    ("asn", .object [("type", .string "str"), ("convert_types", .array [.string "int"])]),
    ("mtu", .object [("type", .string "int")]),
    ("vlans", .object [("type", .string "list"), ("items", .object [("type", .string "int")])])])]

def looseSwitch : Document :=
  .object [("asn", .int 65001), ("platform", .string "EOS"), ("mtu", .string "many"),
    ("site", .string "A"), ("vlans", .array [.string "10", .null])]

/-- One value is converted, one is put in lower case, one fails, and the elements
of the list lie too deep. -/
theorem Node.convert_faithful_switch : looseSwitch.WellFormed ∧ ∃ node converted notes,
    ofDocument? switchDocument = some node ∧ node.convert 1 0 looseSwitch = (converted, notes) ∧
    converted = .object [("asn", .string "65001"), ("platform", .string "eos"),
      ("mtu", .string "many"), ("site", .string "A"), ("vlans", .array [.string "10", .null])] ∧
    notes = [⟨[.key "asn"], .converted (.int 65001) .str⟩, ⟨[.key "platform"], .lowered "EOS"⟩,
      ⟨[.key "mtu"], .failed (.string "many") .int⟩] ∧
    Faithful node 1 looseSwitch converted notes := by
  have hswitch : looseSwitch.WellFormed := by
    simp [looseSwitch, Document.WellFormed, Document.WellFormedEntries, Document.WellFormedElements]
  have hrun : (ofDocument? switchDocument).any (fun node => node.convert 1 0 looseSwitch =
      (.object [("asn", .string "65001"), ("platform", .string "eos"), ("mtu", .string "many"),
        ("site", .string "A"), ("vlans", .array [.string "10", .null])],
      [⟨[.key "asn"], .converted (.int 65001) .str⟩, ⟨[.key "platform"], .lowered "EOS"⟩,
        ⟨[.key "mtu"], .failed (.string "many") .int⟩])) = true := by decide +kernel
  obtain ⟨node, hnode, htest⟩ := (Option.any_eq_true _ _).1 hrun
  have hconvert := of_decide_eq_true htest
  have hfaithful := node.convert_faithful 1 hswitch
  rw [hconvert] at hfaithful
  exact ⟨hswitch, node, _, _, hnode, hconvert, rfl, rfl, hfaithful⟩

end DataSchema
