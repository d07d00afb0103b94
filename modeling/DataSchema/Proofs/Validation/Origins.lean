import DataSchema.Proofs.Validation.Applicable
import DataSchema.Proofs.Validation.Places
import DataSchema.Validation.Walk

/-!
# Where findings come from

A finding is about one value of the instance and the node that governs it: the value has the wrong
kind, breaks a constraint, lacks a key, holds a key or an element that it should not, or repeats a
primary key. The path of the finding leads to that value, and in the last four cases one or two
steps further. Whatever is said about the paths of findings is said about these cases, without the
recursion of the validator.
-/

namespace DataSchema

open Validation

/-! ### What a value and its node give rise to -/

/-- The problems of a value that has the kind of its node, apart from those
of its keys and elements. -/
def Node.constraintProblems (rules : Rules) : Node → Document → List Problem
  | .str _ c, .string text => c.problems rules text
  | .int _ c, .int i => c.problems i
  | .bool _ c, .bool b => c.problems b
  | .list _ _ c, .array values => c.problems values.length
  | _, _ => []

theorem Node.findings_of_scalar {rules : Rules} {depth : Nat} {required : Option String}
    {node : Node} {value : Document} (hdepth : depth ≤ rules.maxDepth)
    (hkind : node.kind ∈ [Kind.str, .int, .bool]) (hadmits : node.kind.admits value = true) :
    node.findings rules depth required value = (node.constraintProblems rules value).map here := by
  cases node with
  | str =>
    obtain ⟨text, rfl⟩ := Kind.admits_str.1 hadmits
    exact findings_str hdepth text
  | int =>
    obtain ⟨i, rfl⟩ := Kind.admits_int.1 hadmits
    exact findings_int hdepth i
  | bool =>
    obtain ⟨b, rfl⟩ := Kind.admits_bool.1 hadmits
    exact findings_bool hdepth b
  | dict | list => simp [kind] at hkind

theorem Node.of_mem_constraintProblems {rules : Rules} {node : Node} {value : Document}
    {problem : Problem} (h : problem ∈ node.constraintProblems rules value) :
    (∀ offending, problem.offending? = some offending → offending = value) ∧
      problem.category ∈ Category.schemaError :: Category.ofConstraints := by
  unfold constraintProblems at h
  split at h
  · simp only [TextConstraints.problems, TextConstraints.lengthProblems,
      TextConstraints.patternProblems, TextConstraints.formatProblems,
      TextConstraints.valueProblems, List.mem_append] at h
    constructor
    · grind [Problem.offending?]
    · grind [Problem.category, Category.ofConstraints]
  · refine ⟨?_, List.mem_cons_of_mem _ (IntConstraints.category_of_mem_problems h)⟩
    unfold IntConstraints.problems at h
    grind [Problem.offending?]
  · refine ⟨?_, List.mem_cons_of_mem _ (BoolConstraints.category_of_mem_problems h)⟩
    unfold BoolConstraints.problems at h
    grind [Problem.offending?]
  · refine ⟨?_, List.mem_cons_of_mem _ (ListConstraints.category_of_mem_problems h)⟩
    unfold ListConstraints.problems at h
    grind [Problem.offending?]
  · cases h

/-- The finding is about the value itself or about what it holds directly, as its node sees it. -/
inductive Finding.ArisesAt (rules : Rules) : Node → Document → Finding → Prop
  | wrongKind {node value} : value ≠ .null → node.kind.admits value = false →
      ArisesAt rules node value (here (.wrongKind node.kind value))
  | constraint {node value problem} :
      problem ∈ node.constraintProblems rules value → ArisesAt rules node value (here problem)
  | missingKey {node entries key child} : node.child? key = some child →
      (∀ held, entries.lookup key = some held → held = .null) →
        ArisesAt rules node (.object entries) ⟨[.key key], .missingKey key⟩
  | unknownKey {node entries key held suggestion} :
      node.kind = .dict → node.child? key = none → entries.lookup key = some held →
      ArisesAt rules node (.object entries) ⟨[.key key], .unknownKey key suggestion held⟩
  | nullElement {node elements position item} :
      node.items? = some item → elements[position]? = some .null →
      ArisesAt rules node (.array elements) ⟨[.index position], .wrongKind item.kind .null⟩
  | repeatedKey {node elements position element key first held} : node.primaryKey? = some key →
      elements[position]? = some element → element.getSet? key = some held →
      ArisesAt rules node (.array elements) ⟨[.index position, .key key],
        .repeatedKey key first held⟩

/-- The finding arises at a place of the instance that a node governs. -/
def Finding.ArisesIn (rules : Rules) (root : Node) (value : Document) (finding : Finding) : Prop :=
  ∃ path node inner found, root.governing? path = some node ∧ value.atPath? path = some inner ∧
    Finding.ArisesAt rules node inner found ∧ finding = found.under path

namespace Finding

variable {rules : Rules} {node child : Node} {value inner : Document} {finding : Finding}

theorem ArisesAt.arisesIn (h : ArisesAt rules node value finding) :
    ArisesIn rules node value finding :=
  ⟨[], node, value, finding, rfl, rfl, h, rfl⟩

namespace ArisesIn

theorem below_key {name : String} (h : ArisesIn rules child inner finding)
    (hchild : node.child? name = some child) (hinner : value.get? name = some inner) :
    ArisesIn rules node value (finding.below (.key name)) := by
  obtain ⟨path, target, place, found, htarget, hplace, hfound, rfl⟩ := h
  exact ⟨.key name :: path, target, place, found,
    Option.bind_eq_some_iff.2 ⟨child, hchild, htarget⟩,
    Option.bind_eq_some_iff.2 ⟨inner, hinner, hplace⟩, hfound, rfl⟩

theorem below_index {position : Nat} {elements : List Document}
    (h : ArisesIn rules child inner finding) (hitem : node.items? = some child)
    (hinner : elements[position]? = some inner) :
    ArisesIn rules node (.array elements) (finding.below (.index position)) := by
  obtain ⟨path, target, place, found, htarget, hplace, hfound, rfl⟩ := h
  exact ⟨.index position :: path, target, place, found,
    Option.bind_eq_some_iff.2 ⟨child, hitem, htarget⟩,
    Option.bind_eq_some_iff.2 ⟨inner, hinner, hplace⟩, hfound, rfl⟩

end ArisesIn

end Finding

/-! ### Every finding arises somewhere -/

namespace Applicable

variable {rules : Rules} {depth : Nat} {node : Node} {required : Option String} {value : Document}
  {finding : Finding}

/-- Values of the wrong kind have this one finding, so only the others have to be looked at. -/
theorem arisesIn_of_admits (hdepth : depth ≤ rules.maxDepth)
    (hmem : finding ∈ node.findings rules depth required value)
    (hadmits : node.kind.admits value = true → finding.ArisesIn rules node value) :
    finding.ArisesIn rules node value := by
  by_cases hnull : value = .null
  · subst hnull
    simp at hmem
  cases hkind : node.kind.admits value with
  | true => exact hadmits hkind
  | false =>
    rw [Node.findings_wrongKind hdepth hnull hkind, List.mem_singleton] at hmem
    rw [hmem]
    exact (Finding.ArisesAt.wrongKind hnull hkind).arisesIn

theorem arisesIn_of_mem_here {problems : List Problem}
    (hproblems : node.constraintProblems rules value = problems)
    (hmem : finding ∈ problems.map here) : finding.ArisesIn rules node value := by
  obtain ⟨problem, hproblem, rfl⟩ := List.mem_map.1 hmem
  exact (Finding.ArisesAt.constraint (hproblems ▸ hproblem)).arisesIn

theorem arisesIn_of_scalar (hdepth : depth ≤ rules.maxDepth)
    (hscalar : node.kind ∈ [Kind.str, .int, .bool])
    (hmem : finding ∈ node.findings rules depth required value) :
    finding.ArisesIn rules node value := by
  refine arisesIn_of_admits hdepth hmem fun hkind => ?_
  rw [Node.findings_of_scalar hdepth hscalar hkind] at hmem
  exact arisesIn_of_mem_here rfl hmem

/-- Whatever is found in an instance arises at some place of it. -/
theorem arisesIn_of_mem_findings (h : Applicable rules depth node) (hnode : node.WellFormed)
    (hvalue : value.WellFormed) (hmem : finding ∈ node.findings rules depth required value) :
    finding.ArisesIn rules node value := by
  induction h generalizing required value finding with
  | str hdepth | int hdepth | bool hdepth =>
    exact arisesIn_of_scalar hdepth (by simp [Node.kind]) hmem
  | @dict depth a keys dynamicKeys other hdepth _ _ ihkeys ihdynamic =>
    refine arisesIn_of_admits hdepth hmem fun hkind => ?_
    obtain ⟨entries, rfl⟩ := Kind.admits_dict.1 hkind
    obtain ⟨hnodup, hvalues⟩ := Document.wellFormed_object.1 hvalue
    rw [Node.findings_dict hdepth, List.mem_append, otherEntries_eq_flatMap] at hmem
    cases hnode with
    | dict hnames hkeys hdynamic =>
      rcases hmem with hstatic | hother
      · obtain ⟨declared, hdeclared, hfinding⟩ := List.mem_flatMap.1 hstatic
        have hchild : (Node.dict a keys dynamicKeys other).child? declared.1 = some declared.2 :=
          Node.child?_of_mem hnames hdeclared
        rcases exists_of_mem_ofStaticKey hfinding with ⟨inner, below, hinner, hbelow, rfl⟩
          | ⟨hunset, rfl⟩
        · exact (ihkeys declared hdeclared (hkeys declared hdeclared)
              (hvalues _ (Entries.mem_of_lookup hinner)) hbelow).below_key
            hchild hinner
        · exact (Finding.ArisesAt.missingKey hchild hunset).arisesIn
      · obtain ⟨entry, hentry, hfinding⟩ := List.mem_flatMap.1 hother
        have hlookup : entries.lookup entry.1 = some entry.2 := Entries.lookup_of_mem hnodup hentry
        obtain ⟨hnot, hcases⟩ := exists_of_mem_ofOtherKey hfinding
        have hchild : (Node.dict a keys dynamicKeys other).child? entry.1 = dynamicKeys :=
          Node.child?_of_not_mem hnot
        rcases hcases with ⟨check, hcheck, below, hbelow, rfl⟩ | ⟨hcheck, suggestion, rfl⟩
        · obtain ⟨dynamic, rfl, rfl⟩ := Option.map_eq_some_iff.1 hcheck
          exact (ihdynamic dynamic rfl (hdynamic dynamic rfl)
            (hvalues entry hentry) hbelow).below_key hchild hlookup
        · rw [Option.map_eq_none_iff] at hcheck
          exact (Finding.ArisesAt.unknownKey rfl (hchild.trans hcheck) hlookup).arisesIn
  | @list depth a items c hdepth _ ih =>
    refine arisesIn_of_admits hdepth hmem fun hkind => ?_
    obtain ⟨values, rfl⟩ := Kind.admits_list.1 hkind
    rw [Node.findings_list hdepth, List.mem_append] at hmem
    cases hnode with
    | list hitems =>
      rcases hmem with hlength | helements
      · exact arisesIn_of_mem_here rfl hlength
      · obtain ⟨position, element, hposition, hcases⟩ := exists_of_mem_elements helements
        rw [Nat.zero_add] at hcases
        rcases hcases with ⟨below, hbelow, rfl⟩ | ⟨key, first, held, hkey, hheld, rfl⟩
        · obtain ⟨item, rfl, hfinding | ⟨rfl, rfl⟩⟩ := exists_of_mem_ofElement hbelow
          · have helement :=
              Document.wellFormed_array.1 hvalue element (List.mem_of_getElem? hposition)
            exact (ih item rfl (hitems item rfl) helement hfinding).below_index rfl hposition
          · exact (Finding.ArisesAt.nullElement rfl hposition).arisesIn
        · have hprimary : (Node.list a items c).primaryKey? = some key := hkey
          exact (Finding.ArisesAt.repeatedKey hprimary hposition hheld).arisesIn

end Applicable

end DataSchema
