import DataSchema.Proofs.Node.WellFormed
import DataSchema.Proofs.Validation.Findings

/-!
# Nodes that can be applied

Validation reports a problem of the schema itself in three cases: the instance is nested too deeply,
a pattern was not compiled, or a format is not registered. `Applicable` says of a node and
everything below it that none of them can happen, whatever the instance: the tree ends within the
limit, and the patterns and formats of its text nodes are known to the rules.
-/

namespace DataSchema

open Validation

structure TextConstraints.Known (rules : Rules) (c : TextConstraints) : Prop where
  pattern : ∀ source ∈ c.patternSource?, (rules.patterns.lookup source).isSome
  format : ∀ format ∈ c.format, rules.formats.contains format

/-- The node, standing at a depth, can be applied under the rules. -/
inductive Applicable (rules : Rules) : Nat → Node → Prop
  | str {depth a c} : depth ≤ rules.maxDepth → c.Known rules → Applicable rules depth (.str a c)
  | int {depth a c} : depth ≤ rules.maxDepth → Applicable rules depth (.int a c)
  | bool {depth a c} : depth ≤ rules.maxDepth → Applicable rules depth (.bool a c)
  | dict {depth a keys dynamicKeys other} : depth ≤ rules.maxDepth →
      (∀ entry ∈ keys.getD [], Applicable rules (depth + 1) entry.2) →
      (∀ node ∈ dynamicKeys, Applicable rules (depth + 1) node) →
        Applicable rules depth (.dict a keys dynamicKeys other)
  | list {depth a items c} :
      depth ≤ rules.maxDepth → (∀ item ∈ items, Applicable rules (depth + 1) item) →
      Applicable rules depth (.list a items c)

theorem TextConstraints.Known.mono {rules rules' : Rules} {c : TextConstraints} (h : c.Known rules)
    (hpatterns : rules.patterns <+: rules'.patterns) (hformats : rules.formats = rules'.formats) :
    c.Known rules' where
  pattern source hsource := by
    obtain ⟨compiled, hlookup⟩ := Option.isSome_iff_exists.1 (h.pattern source hsource)
    rw [hpatterns.lookup_eq_some hlookup]
    rfl
  format := hformats ▸ h.format

namespace Applicable

variable {rules rules' : Rules} {depth : Nat} {node : Node}

theorem le_maxDepth (h : Applicable rules depth node) : depth ≤ rules.maxDepth := by
  cases h <;> assumption

theorem mono (h : Applicable rules depth node) (hpatterns : rules.patterns <+: rules'.patterns)
    (hformats : rules.formats = rules'.formats) (hmaxDepth : rules.maxDepth ≤ rules'.maxDepth)
    {higher : Nat} (hle : higher ≤ depth) : Applicable rules' higher node := by
  induction h generalizing higher with
  | str hdepth hknown => exact .str (by omega) (hknown.mono hpatterns hformats)
  | int hdepth => exact .int (by omega)
  | bool hdepth => exact .bool (by omega)
  | dict hdepth _ _ ihkeys ihdynamic =>
    exact .dict (by omega) (fun entry hentry => ihkeys entry hentry (by omega)) (fun node hnode =>
      ihdynamic node hnode (by omega))
  | list hdepth _ ih => exact .list (by omega) (fun item hitem => ih item hitem (by omega))

theorem of_le (h : Applicable rules depth node) {higher : Nat} (hle : higher ≤ depth) :
    Applicable rules higher node :=
  h.mono List.prefix_rfl rfl (Nat.le_refl _) hle

theorem child? (h : Applicable rules depth node) {key : String} {child : Node}
    (hchild : node.child? key = some child) :
    Applicable rules (depth + 1) child := by
  cases h with
  | dict hdepth hkeys hdynamic =>
    rcases Node.child?_eq_some hchild with hstatic | ⟨-, hother⟩
    · exact hkeys (key, child) hstatic
    · exact hdynamic child hother
  | _ => cases hchild

theorem items? (h : Applicable rules depth node) {item : Node} (hitem : node.items? = some item) :
    Applicable rules (depth + 1) item := by
  cases h with
  | list hdepth hitems => exact hitems item hitem
  | _ => cases hitem

end Applicable

/-! ### No problem of the schema itself -/

/-- The categories of what a value breaks at its own place, when it has the right kind. -/
def Category.ofConstraints : List Category := [.outOfRange, .patternMismatch, .notInValidValues]

theorem TextConstraints.category_of_mem_problems {rules : Rules} {c : TextConstraints}
    (h : c.Known rules) {text : String} {problem : Problem}
    (hmem : problem ∈ c.problems rules text) : problem.category ∈ Category.ofConstraints := by
  simp only [problems, List.mem_append] at hmem
  rcases hmem with ((hlength | hpattern) | hformat) | hvalue
  · unfold lengthProblems at hlength
    grind [Problem.category, Category.ofConstraints]
  · unfold patternProblems at hpattern
    have hknown := h.pattern
    grind [Problem.category, Category.ofConstraints]
  · unfold formatProblems at hformat
    split at hformat
    · rename_i format hformat?
      obtain ⟨test, htest⟩ := Option.isSome_iff_exists.1 (h.format format hformat?)
      rw [Formats.check?, htest, Option.map_some] at hformat
      cases hpasses : test text
      · rw [hpasses] at hformat
        rw [List.mem_singleton.1 hformat]
        simp [Problem.category, Category.ofConstraints]
      · simp [hpasses] at hformat
    · simp at hformat
  · unfold valueProblems at hvalue
    grind [Problem.category, Category.ofConstraints]

theorem IntConstraints.category_of_mem_problems {c : IntConstraints} {value : Int}
    {problem : Problem} (hmem : problem ∈ c.problems value) :
    problem.category ∈ Category.ofConstraints := by
  unfold problems at hmem
  grind [Problem.category, Category.ofConstraints]

theorem BoolConstraints.category_of_mem_problems {c : BoolConstraints} {value : Bool}
    {problem : Problem} (hmem : problem ∈ c.problems value) :
    problem.category ∈ Category.ofConstraints := by
  unfold problems at hmem
  grind [Problem.category, Category.ofConstraints]

theorem ListConstraints.category_of_mem_problems {c : ListConstraints} {count : Nat}
    {problem : Problem} (hmem : problem ∈ c.problems count) :
    problem.category ∈ Category.ofConstraints := by
  unfold problems at hmem
  grind [Problem.category, Category.ofConstraints]

namespace Applicable

variable {rules : Rules} {depth : Nat} {node : Node} {required : Option String} {value : Document}
  {finding : Finding}

/-- A value of the wrong kind is no problem of the schema, so only values of the node's
kind have to be looked at. -/
theorem category_of_admits (hdepth : depth ≤ rules.maxDepth)
    (hmem : finding ∈ node.findings rules depth required value)
    (hadmits : node.kind.admits value = true → finding.problem.category ≠ .schemaError) :
    finding.problem.category ≠ .schemaError := by
  rcases Node.eq_wrongKind_or_admits hdepth hmem with rfl | hkind
  · simp [here, Problem.category]
  · exact hadmits hkind

theorem category_of_mem_here {problems : List Problem}
    (hproblems : ∀ problem ∈ problems, problem.category ∈ Category.ofConstraints)
    (hmem : finding ∈ problems.map here) : finding.problem.category ≠ .schemaError := by
  obtain ⟨problem, hproblem, rfl⟩ := List.mem_map.1 hmem
  exact ne_of_mem_of_not_mem (hproblems problem hproblem) (by decide)

/-- A node that can be applied never reports a problem of the schema, on any instance. -/
theorem category_of_mem_findings (h : Applicable rules depth node)
    (hmem : finding ∈ node.findings rules depth required value) :
    finding.problem.category ≠ .schemaError := by
  induction h generalizing required value finding with
  | str hdepth hknown =>
    refine category_of_admits hdepth hmem fun hkind => ?_
    obtain ⟨text, rfl⟩ := Kind.admits_str.1 hkind
    rw [Node.findings_str hdepth] at hmem
    exact category_of_mem_here (fun _ => TextConstraints.category_of_mem_problems hknown) hmem
  | int hdepth =>
    refine category_of_admits hdepth hmem fun hkind => ?_
    obtain ⟨i, rfl⟩ := Kind.admits_int.1 hkind
    rw [Node.findings_int hdepth] at hmem
    exact category_of_mem_here (fun _ => IntConstraints.category_of_mem_problems) hmem
  | bool hdepth =>
    refine category_of_admits hdepth hmem fun hkind => ?_
    obtain ⟨b, rfl⟩ := Kind.admits_bool.1 hkind
    rw [Node.findings_bool hdepth] at hmem
    exact category_of_mem_here (fun _ => BoolConstraints.category_of_mem_problems) hmem
  | dict hdepth _ _ ihkeys ihdynamic =>
    refine category_of_admits hdepth hmem fun hkind => ?_
    obtain ⟨entries, rfl⟩ := Kind.admits_dict.1 hkind
    rw [Node.findings_dict hdepth, List.mem_append, otherEntries_eq_flatMap] at hmem
    rcases hmem with hstatic | hother
    · obtain ⟨declared, hdeclared, hfinding⟩ := List.mem_flatMap.1 hstatic
      rcases exists_of_mem_ofStaticKey hfinding with ⟨value, below, -, hbelow, rfl⟩ | ⟨-, rfl⟩
      · exact (ihkeys declared hdeclared hbelow : below.problem.category ≠ .schemaError)
      · simp [Problem.category]
    · obtain ⟨entry, -, hfinding⟩ := List.mem_flatMap.1 hother
      rcases (exists_of_mem_ofOtherKey hfinding).2 with ⟨inner, hinner, below, hbelow, rfl⟩
        | ⟨-, suggestion, rfl⟩
      · obtain ⟨dynamic, hdynamic, rfl⟩ := Option.map_eq_some_iff.1 hinner
        exact (ihdynamic dynamic hdynamic hbelow : below.problem.category ≠ .schemaError)
      · simp [Problem.category]
  | list hdepth _ ih =>
    refine category_of_admits hdepth hmem fun hkind => ?_
    obtain ⟨values, rfl⟩ := Kind.admits_list.1 hkind
    rw [Node.findings_list hdepth, List.mem_append] at hmem
    rcases hmem with hlength | helements
    · exact category_of_mem_here (fun _ => ListConstraints.category_of_mem_problems) hlength
    · obtain ⟨position, element, -, ⟨below, hbelow, rfl⟩ | ⟨key, first, held, -, -, rfl⟩⟩ :=
        exists_of_mem_elements helements
      · obtain ⟨item, hitem, hfinding | ⟨-, rfl⟩⟩ := exists_of_mem_ofElement hbelow
        · exact (ih item hitem hfinding : below.problem.category ≠ .schemaError)
        · simp [here, Finding.below, Problem.category]
      · simp [Problem.category]

end Applicable

end DataSchema
