import DataSchema.Proofs.Conversion.Notes
import DataSchema.Proofs.Schema.WellFormed
import DataSchema.Proofs.Validation.EntryOrder
import DataSchema.Proofs.Validation.Origins

/-!
# Failed conversions are type mismatches

Conversion and validation go through an instance side by side: a value that conversion tries to
change and cannot is one that validation then finds to be of the wrong kind, and every type mismatch
of a scalar that its node allows to be converted was tried before. The two go in different orders,
so what corresponds are the sets of places.
-/

namespace DataSchema

open Conversion Validation
open scoped List

/-- The finding says that a scalar has the wrong kind, and its node allows values of
its kind to be converted. -/
def Finding.isConvertible (root : Node) (finding : Finding) : Bool :=
  match finding.problem, root.governing? finding.path with
  | .wrongKind _ value, some node =>
    [Kind.str, .int, .bool].contains node.kind && isAllowed node value
  | _, _ => false

/-- The paths of the type mismatches of scalars that may be converted. -/
def mismatches (root : Node) (findings : List Finding) : List Path :=
  (findings.filter (Finding.isConvertible root)).map Finding.path

section

variable {root child : Node} {findings findings' : List Finding}

theorem mismatches_append : mismatches root (findings ++ findings') =
    mismatches root findings ++ mismatches root findings' := by
  rw [mismatches, List.filter_append, List.map_append]
  rfl

theorem mismatches_flatMap {α : Type} (list : List α) (f : α → List Finding) :
    mismatches root (list.flatMap f) = list.flatMap fun a => mismatches root (f a) := by
  rw [mismatches, List.filter_flatMap, List.map_flatMap]
  rfl

theorem mismatches_perm (h : findings.Perm findings') :
    (mismatches root findings).Perm (mismatches root findings') :=
  (h.filter _).map _

theorem mismatches_below {segment : Segment}
    (h : ∀ path, root.governing? (segment :: path) = child.governing? path) :
    mismatches root (findings.map (Finding.below segment)) =
      (mismatches child findings).map (segment :: ·) := by
  have hsame : Finding.isConvertible root ∘ Finding.below segment =
      Finding.isConvertible child := by
    funext finding
    simp only [Function.comp, Finding.isConvertible, Finding.below, h]
  rw [mismatches, List.filter_map, hsame, List.map_map, mismatches, List.map_map]
  rfl

theorem mismatches_underKey {key : String} (hchild : root.child? key = some child) :
    mismatches root (underKey key findings) = (mismatches child findings).map (.key key :: ·) := by
  apply mismatches_below
  intro path
  rw [Node.governing?, hchild, Option.bind_some]

theorem mismatches_underIndex {index : Nat} (hitem : root.items? = some child) :
    mismatches root (underIndex index findings) =
      (mismatches child findings).map (.index index :: ·) := by
  apply mismatches_below
  intro path
  rw [Node.governing?, hitem, Option.bind_some]

theorem mismatches_eq_nil (h : ∀ finding ∈ findings, finding.problem.category ≠ .typeMismatch) :
    mismatches root findings = [] := by
  rw [mismatches, List.map_eq_nil_iff, List.filter_eq_nil_iff]
  intro finding hfinding
  have hcategory := h finding hfinding
  unfold Finding.isConvertible
  split
  · rename_i hproblem _
    rw [hproblem] at hcategory
    exact absurd rfl hcategory
  · simp

theorem mismatches_wrongKind (node : Node) (value : Document) :
    mismatches node [here (.wrongKind node.kind value)] =
    if node.kind ∈ [Kind.str, .int, .bool] ∧ isAllowed node value = true then [[]] else [] := by
  have hcount : Finding.isConvertible node (here (.wrongKind node.kind value)) =
      ([Kind.str, .int, .bool].contains node.kind && isAllowed node value) := rfl
  simp only [mismatches, List.filter_singleton, hcount, cond_eq_ite, Bool.and_eq_true,
    List.contains_iff_mem]
  split <;> rfl

theorem mismatches_elements {primaryKey : Option String} {check : Document → List Finding}
    (hitem : root.items? = some child) (index : Nat) (seen : Seen) (values : List Document) :
    mismatches root (elements primaryKey check index seen values) =
      (values.zipIdx index).flatMap fun place =>
        (mismatches child (check place.1)).map (.index place.2 :: ·) := by
  induction values generalizing index seen with
  | nil => rfl
  | cons value rest ih =>
    have hrepetition : mismatches root (repetition primaryKey seen index value) = [] := by
      apply mismatches_eq_nil
      intro finding hfinding
      rw [category_of_mem_repetition hfinding]
      decide
    rw [elements, mismatches_append, mismatches_append, mismatches_underIndex hitem, hrepetition,
      List.append_nil, ih, List.zipIdx_cons, List.flatMap_cons]

/-- Constraints are only asked of values of the right kind. -/
theorem mismatches_of_constraints {problems : List Problem}
    (h : ∀ problem ∈ problems, problem.category ∈ Category.schemaError :: Category.ofConstraints) :
    mismatches root (problems.map here) = [] := by
  apply mismatches_eq_nil
  rw [List.forall_mem_map]
  exact fun problem hproblem => ne_of_mem_of_not_mem (h problem hproblem) (by decide)

theorem mismatches_of_length (c : ListConstraints) (count : Nat) :
    mismatches root ((c.problems count).map here) = [] :=
  mismatches_of_constraints fun _ hproblem =>
    List.mem_cons_of_mem _ (ListConstraints.category_of_mem_problems hproblem)

end

/-! ### Conversion and validation side by side -/

theorem Node.convert_fst_ne_null {maxDepth depth : Nat} (hdepth : depth ≤ maxDepth) {node : Node}
    {value : Document} (h : value ≠ .null) : (node.convert maxDepth depth value).1 ≠ .null := by
  cases value with
  | null => exact absurd rfl h
  | bool | int | float | string =>
    rw [convert_scalar hdepth h rfl]
    split
    · rcases convertScalar_cases node _ with ⟨hadmits, -⟩ | ⟨-, hfailed⟩
      · exact Kind.ne_null_of_admits hadmits
      · rw [hfailed]
        exact h
    · exact h
  | array | object =>
    rw [convert.eq_def]
    dsimp only
    split
    · exact h
    · split <;> simp

namespace Applicable

variable {rules : Rules} {depth : Nat} {node : Node} {required : Option String} {value : Document}

theorem mismatches_of_not_admits (hdepth : depth ≤ rules.maxDepth) (hnull : value ≠ .null)
    (hadmits : node.kind.admits value = false) :
    mismatches node (node.findings rules depth required value) =
      if node.kind ∈ [Kind.str, .int, .bool] ∧ isAllowed node value = true then [[]] else [] := by
  rw [Node.findings_wrongKind hdepth hnull hadmits, mismatches_wrongKind]

theorem failures_eq_mismatches (hdepth : depth ≤ rules.maxDepth) (hnull : value ≠ .null)
    (hscalar : value.shape.isContainer = false) :
    failures (node.convert rules.maxDepth depth value).2 =
      mismatches node (node.findings rules depth required
        (node.convert rules.maxDepth depth value).1) := by
  rw [Node.convert_scalar hdepth hnull hscalar]
  by_cases hkind : node.kind ∈ [Kind.str, .int, .bool]
  · rw [if_pos hkind]
    rcases convertScalar_cases node value with ⟨hadmits, hnotes⟩ | ⟨hadmits, hfailed⟩
    · rw [failures_eq_nil fun note hnote => (hnotes note hnote).2,
        Node.findings_of_scalar hdepth hkind hadmits, mismatches_of_constraints fun _ hproblem =>
        (Node.of_mem_constraintProblems hproblem).2]
    · rw [hfailed, mismatches_of_not_admits hdepth hnull hadmits]
      cases isAllowed node value <;> simp [hkind, failures, Attempt.isFailure]
  · have hadmits : node.kind.admits value = false := by
      cases node <;> cases value <;> simp_all [Node.kind, Kind.admits, Document.shape,
        Shape.isContainer]
    rw [if_neg hkind, mismatches_of_not_admits hdepth hnull hadmits, if_neg fun h => hkind h.1]
    rfl

theorem mismatches_container (hdepth : depth ≤ rules.maxDepth)
    (hcontainer : value.shape.isContainer = true) (hadmits : node.kind.admits value = false) :
    mismatches node (node.findings rules depth required value) = [] := by
  have hnull : value ≠ .null := by
    rintro rfl
    cases hcontainer
  have hallowed : isAllowed node value = false := by
    cases value <;> first | rfl | cases hcontainer
  rw [mismatches_of_not_admits hdepth hnull hadmits, hallowed, if_neg fun h =>
    Bool.false_ne_true h.2]

/-- Where conversion leaves a value alone there is no mismatch that it might have mended. -/
theorem mismatches_of_leavesAlone (hdepth : depth ≤ rules.maxDepth) (h : node.LeavesAlone value) :
    mismatches node (node.findings rules depth required value) = [] := by
  cases value with
  | null => rw [Node.findings_null]; rfl
  | object entries =>
    cases node with
    | dict => exact absurd rfl h
    | _ => exact mismatches_container hdepth rfl rfl
  | array values =>
    cases node with
    | list a items c =>
      cases (h : items = none)
      rw [Node.findings_list hdepth, mismatches_append, mismatches_of_length]
      apply mismatches_eq_nil
      intro finding hfinding
      obtain ⟨position, value, -, ⟨below, hbelow, -⟩ | ⟨key, first, held, -, -, rfl⟩⟩ :=
        exists_of_mem_elements hfinding
      · cases hbelow
      · simp [Problem.category]
    | _ => exact mismatches_container hdepth rfl rfl
  | _ => cases h

theorem failures_perm_mismatches_element {item : Node}
    (hdepth : depth ≤ rules.maxDepth) (primaryKey : Option String)
    (h : value ≠ .null → (failures (item.convert rules.maxDepth depth value).2).Perm
      (mismatches item (item.findings rules depth primaryKey
        (item.convert rules.maxDepth depth value).1))) :
    (failures (item.convert rules.maxDepth depth value).2).Perm
      (mismatches item (ofElement rules depth primaryKey (some item)
        (item.convert rules.maxDepth depth value).1)) := by
  by_cases hnull : value = .null
  · have hfinding : ofElement rules depth primaryKey (some item) .null =
        [here (.wrongKind item.kind .null)] := rfl
    rw [hnull, Node.convert_null, hfinding, mismatches_wrongKind, if_neg fun h =>
      Bool.false_ne_true h.2]
    exact .nil
  · have hconverted : (item.convert rules.maxDepth depth value).1.isNull = false :=
      Document.isNull_eq_false.2 (Node.convert_fst_ne_null hdepth hnull)
    rw [ofElement, element, if_neg (by simp [hconverted])]
    exact h hnull

theorem mismatches_dict_perm {a : Attributes} {keys : Option (List (String × Node))}
    {dynamicKeys : Option Node} {other : Option Bool} {entries : Entries Document}
    (hdepth : depth ≤ rules.maxDepth) (hkeys : ((keys.getD []).map Prod.fst).Nodup)
    (hentries : (entries.map Prod.fst).Nodup) :
    (mismatches (.dict a keys dynamicKeys other)
      ((Node.dict a keys dynamicKeys other).findings rules depth required (.object entries))).Perm
    (entries.flatMap fun entry => ((Node.dict a keys dynamicKeys other).child? entry.1).elim []
      fun child =>
      (mismatches child (child.findings rules (depth + 1) none entry.2)).map
        (.key entry.1 :: ·)) := by
  have hunset : mismatches (.dict a keys dynamicKeys other)
      ((keys.getD []).flatMap (ofUnsetKey required entries)) = [] := by
    apply mismatches_eq_nil
    intro finding hfinding
    obtain ⟨declared, -, hmem⟩ := List.mem_flatMap.1 hfinding
    rw [category_of_mem_ofUnsetKey hmem]
    decide
  refine (mismatches_perm (Node.findings_dict_perm hdepth hkeys hentries)).trans ?_
  rw [mismatches_append, hunset, List.nil_append, mismatches_flatMap]
  refine .of_eq (List.flatMap_congr fun entry _ => ?_)
  rw [ofEntry]
  cases hchild : (Node.dict a keys dynamicKeys other).child? entry.1 with
  | some child => exact mismatches_underKey hchild
  | none =>
    dsimp only
    unfold unknownKey
    split <;> rfl

/-- The places where conversion failed are those of the mismatches that it might have
mended, in another order. -/
theorem failures_perm_mismatches (h : Applicable rules depth node) (hnode : node.WellFormed)
    (hvalue : value.WellFormed) :
    (failures (node.convert rules.maxDepth depth value).2).Perm
      (mismatches node (node.findings rules depth required
        (node.convert rules.maxDepth depth value).1)) := by
  refine h.convert_induction (motive := fun depth node value => node.WellFormed → ∀ required,
    (failures (node.convert rules.maxDepth depth value).2).Perm
      (mismatches node (node.findings rules depth required
        (node.convert rules.maxDepth depth value).1)))
    ?kept ?scalar ?list ?dict hvalue hnode required
  case kept =>
    intro depth node value hdepth hkept _ _ required
    rw [Node.convert_of_leavesAlone hkept, mismatches_of_leavesAlone hdepth hkept]
    exact .nil
  case scalar =>
    exact fun hdepth hnull hscalar _ required =>
      .of_eq (failures_eq_mismatches hdepth hnull hscalar)
  case list =>
    rintro depth a item c values hdepth ih (_ | _ | _ | _ | hitem) required
    rw [Node.convert_array_eq (Nat.le_of_lt hdepth), Node.findings_list (Nat.le_of_lt hdepth),
      mismatches_append, mismatches_of_length, List.nil_append, mismatches_elements rfl,
      List.zipIdx_map, List.flatMap_map]
    simp only [failures_flatMap, failures_map_below]
    refine List.Perm.flatMap_left _ fun place hplace => ?_
    have hmem : place.1 ∈ values := List.mem_of_getElem? (List.mk_mem_zipIdx_iff_getElem?.1 hplace)
    exact (failures_perm_mismatches_element hdepth c.primaryKey fun _ =>
      ih place.1 hmem (hitem item rfl) _).map _
  case dict =>
    intro depth a keys dynamicKeys other entries hdepth hnodup _ ih hwell required
    have hgood : ∀ {key child}, (Node.dict a keys dynamicKeys other).child? key = some child →
        child.WellFormed :=
      fun hchild => hwell.child? hchild
    cases hwell with
    | dict hkeys =>
      rw [Node.convert_object_eq hdepth]
      refine .trans ?_ (mismatches_dict_perm hdepth hkeys (by rwa [List.map_map])).symm
      rw [List.flatMap_map]
      simp only [failures_flatMap, failures_map_below]
      refine List.Perm.flatMap_left _ fun entry hentry => ?_
      rw [Node.convertAt]
      cases hchild : (Node.dict a keys dynamicKeys other).child? entry.1 with
      | some child => exact (ih entry hentry child hchild (hgood hchild) none).map _
      | none => exact .nil

end Applicable

/-! ### Loaded schemas -/

theorem Finding.ArisesIn.exists_of_typeMismatch {rules : Rules} {root : Node} {value : Document}
    {finding : Finding} (h : finding.ArisesIn rules root value)
    (hcategory : finding.problem.category = .typeMismatch) :
    ∃ node inner, root.governing? finding.path = some node ∧
      value.atPath? finding.path = some inner ∧
      node.kind.admits inner = false := by
  obtain ⟨path, node, inner, found, hnode, hinner, hfound, rfl⟩ := h
  rw [Finding.under, Node.governing?_append, Document.atPath?_append, hnode, hinner,
    Option.bind_some, Option.bind_some]
  cases hfound with
  | wrongKind _ hadmits => exact ⟨node, inner, rfl, rfl, hadmits⟩
  | nullElement hitem hposition =>
    refine ⟨_, .null, Option.bind_eq_some_iff.2 ⟨_, hitem, rfl⟩,
      Option.bind_eq_some_iff.2 ⟨_, hposition, rfl⟩, ?_⟩
    by_contra hadmits
    exact Kind.ne_null_of_admits (Bool.not_eq_false _ ▸ hadmits) rfl
  | constraint hproblem =>
    exact absurd hcategory (ne_of_mem_of_not_mem
      (Node.of_mem_constraintProblems hproblem).2 (by decide))
  | _ => cases hcategory

/-- Convert an instance and validate the result. The paths of the failed conversions are pairwise
different, and they are, one for one, the paths of the type mismatches of scalars that their node
allows to be converted. Where a conversion did not fail there is no type mismatch. -/
theorem WellLoaded.failures_correspond {schema : Schema}
    {value converted : Document} {notes : List Note} {findings : List Finding}
    (h : WellLoaded schema) (hvalue : value.WellFormed)
    (hrun : schema.convertAndValidate value = (converted, notes, findings)) :
    (failures notes).Nodup ∧ (failures notes).Perm (mismatches schema.root findings) ∧
    ∀ note ∈ notes, note.attempt.isFailure = false →
      ∀ finding ∈ findings, finding.path = note.path →
        finding.problem.category ≠ .typeMismatch := by
  have happlicable := h.loaded.applicable
  cases hrun
  refine ⟨nodup_failures hvalue, happlicable.failures_perm_mismatches h.root_wellFormed hvalue, ?_⟩
  intro note hnote hdone finding hfinding hpath hcategory
  obtain ⟨target, _, inner, htarget, -, -, hinner, -, houtcome⟩ :=
    Node.exists_of_mem_convert hvalue hnote
  obtain ⟨node, found, hnode, hfound, hmismatch⟩ :=
    (happlicable.arisesIn_of_mem_findings h.root_wellFormed
      (happlicable.convert_wellFormed hvalue) hfinding).exists_of_typeMismatch hcategory
  rw [hpath, htarget] at hnode
  rw [hpath] at hfound
  cases hnode
  cases hinner.symm.trans hfound
  rw [houtcome.admits hdone] at hmismatch
  cases hmismatch

def countersDocument : Document :=
  .object [("type", .string "dict"), ("keys", .object [("count", .object [("type", .string "int")]),
    ("port", .object [("type", .string "int")]), ("debug", .object [("type", .string "bool")])])]

/-- All counters are written as texts, in another order, and two of the texts make no sense. -/
def looseCounters : Document :=
  .object [("debug", .string "maybe"), ("port", .string "80"), ("count", .string "many")]

/-- The port is converted, and the others are the two values of a wrong kind. -/
theorem WellLoaded.failures_correspond_counters :
    ∃ schema converted notes findings, WellLoaded schema ∧
    schema.convertAndValidate looseCounters = (converted, notes, findings) ∧
    failures notes = [[.key "debug"], [.key "count"]] ∧
    mismatches schema.root findings = [[.key "count"], [.key "debug"]] ∧
    (failures notes).Perm (mismatches schema.root findings) ∧
    ∀ finding ∈ findings, finding.path = [.key "port"] →
      finding.problem.category ≠ .typeMismatch := by
  have hdocument : countersDocument.WellFormed := by
    simp [countersDocument, Document.WellFormed, Document.WellFormedEntries]
  have hcounters : looseCounters.WellFormed := by
    simp [looseCounters, Document.WellFormed, Document.WellFormedEntries]
  have hrun : (Loader.standard.load countersDocument).toOption.any (fun schema =>
      (schema.convertAndValidate looseCounters).2.1 ==
        [⟨[.key "debug"], .failed (.string "maybe") .bool⟩,
        ⟨[.key "port"], .converted (.string "80") .int⟩,
        ⟨[.key "count"], .failed (.string "many") .int⟩] &&
      mismatches schema.root (schema.convertAndValidate looseCounters).2.2 ==
        [[.key "count"], [.key "debug"]]) = true := by
    decide +kernel
  obtain ⟨schema, hload, htest⟩ := exists_ok_of_any hrun
  rcases hresult : schema.convertAndValidate looseCounters with ⟨converted, notes, findings⟩
  rw [hresult, Bool.and_eq_true, beq_iff_eq, beq_iff_eq] at htest
  obtain ⟨rfl, hmismatches⟩ := htest
  have hloaded : WellLoaded schema := .of_standard hdocument hload
  obtain ⟨-, hperm, hdone⟩ := hloaded.failures_correspond hcounters hresult
  exact ⟨schema, converted, _, findings, hloaded, hresult, rfl, hmismatches, hperm,
    hdone ⟨[.key "port"], .converted (.string "80") .int⟩ (by simp) rfl⟩

end DataSchema
