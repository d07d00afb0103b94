import Mathlib.Data.List.Infix
import Mathlib.Logic.Relation
import DataSchema.Proofs.Validation.Findings
import DataSchema.Schema

/-!
# A walk gives the findings in document order

A walk stands for the findings that it has left: those that are known, and those of the values that
are still to be looked into, each with its place. Looking into a value replaces it by work that
stands for the same findings, so asking for findings one after the other gives what the recursion
over node and value defines, and the findings of a value stay together.
-/

namespace DataSchema

open Validation

variable {rules : Rules}

/-! ### The findings that work stands for -/

theorem Finding.under_below (path : Path) (segment : Segment) (finding : Finding) :
    (finding.below segment).under path = finding.under (path.join segment) := by
  simp [under, below, Path.join]

def Visit.findings (rules : Rules) (visit : Visit) : List Finding :=
  (visit.node.findings rules visit.depth visit.required visit.value).map (Finding.under visit.path)

def Work.findings (rules : Rules) : Work → List Finding
  | .look visit => visit.findings rules
  | .emit finding => [finding]

/-- The findings that are left, by the recursion over nodes and values. -/
def Walk.findings (rules : Rules) (walk : Walk) : List Finding := walk.flatMap (Work.findings rules)

namespace Walk

theorem findings_append (walk walk' : Walk) :
    findings rules (walk ++ walk') = findings rules walk ++ findings rules walk' :=
  List.flatMap_append

theorem findings_flatMap {α : Type} (list : List α) (work : α → Walk) :
    findings rules (list.flatMap work) = list.flatMap fun a => findings rules (work a) :=
  List.flatMap_assoc

theorem findings_emit (visit : Visit) (list : List Finding) :
    findings rules (visit.emit list) = list.map (Finding.under visit.path) := by
  rw [findings, Visit.emit, List.flatMap_map, List.map_eq_flatMap]
  rfl

theorem findings_below (visit : Visit) (segment : Segment) (node : Node) (value : Document)
    (required : Option String) :
    findings rules [.look (visit.below segment node value required)] =
      ((node.findings rules (visit.depth + 1) required value).map (Finding.below segment)).map
        (Finding.under visit.path) := by
  simp [findings, Work.findings, Visit.findings, Visit.below, Finding.under_below]

end Walk

/-! ### Looking into a value -/

namespace Visit

variable (visit : Visit)

theorem findings_staticKey (entries : Entries Document) (declared : String × Node) :
    Walk.findings rules (visit.staticKey entries declared) =
      (ofStaticKey visit.required (Node.findings rules (visit.depth + 1) none) entries declared).map
        (Finding.under visit.path) := by
  unfold staticKey ofStaticKey
  cases (entries.lookup declared.1).filter fun value => !value.isNull with
  | some value => exact Walk.findings_below ..
  | none =>
    dsimp only
    split
    · exact Walk.findings_emit ..
    · rfl

theorem findings_otherKeys (declared : List String) (dynamicKeys : Option Node)
    (allowOtherKeys : Bool) (entries : Entries Document) :
    Walk.findings rules (entries.flatMap (visit.otherKey declared dynamicKeys allowOtherKeys)) =
      (otherEntries declared (dynamicKeys.map (Node.findings rules (visit.depth + 1) none))
          allowOtherKeys entries).map
        (Finding.under visit.path) := by
  induction entries with
  | nil => rfl
  | cons entry rest ih =>
    rw [List.flatMap_cons, Walk.findings_append, ih, otherEntries, otherEntries, List.filter_cons]
    cases hdeclared : declared.contains entry.1 with
    | true =>
      rw [otherKey.eq_def, if_pos hdeclared]
      rfl
    | false =>
      rw [Bool.not_false, if_pos rfl, List.flatMap_cons, List.map_append]
      congr 1
      rw [otherKey.eq_def, if_neg (Bool.not_eq_true _ ▸ hdeclared)]
      cases dynamicKeys with
      | some node => exact Walk.findings_below ..
      | none => exact Walk.findings_emit ..

theorem findings_element (primaryKey : Option String) (items : Option Node) (index : Nat)
    (value : Document) :
    Walk.findings rules (visit.element primaryKey items index value) =
      (underIndex index (ofElement rules (visit.depth + 1) primaryKey items value)).map
        (Finding.under visit.path) := by
  cases items with
  | none => rfl
  | some item =>
    rw [element, ofElement, Validation.element]
    split
    · exact Walk.findings_emit ..
    · exact Walk.findings_below ..

theorem findings_elements (primaryKey : Option String) (items : Option Node) (index : Nat)
    (seen : Seen) (values : List Document) :
    Walk.findings rules (visit.elements primaryKey items index seen values) =
      (Validation.elements primaryKey (ofElement rules (visit.depth + 1) primaryKey items) index
          seen values).map
        (Finding.under visit.path) := by
  induction values generalizing index seen with
  | nil => rfl
  | cons value rest ih =>
    rw [elements, Validation.elements, Walk.findings_append, Walk.findings_append, findings_element,
      Walk.findings_emit, ih, List.map_append, List.map_append]

/-- Looking into a value settles nothing and loses nothing. -/
theorem findings_expand : Walk.findings rules (visit.expand rules) = visit.findings rules := by
  obtain ⟨node, value, path, depth, required⟩ := visit
  by_cases hnull : value = .null
  · subst hnull
    simp [expand, findings, Document.isNull, Walk.findings]
  unfold expand findings
  dsimp only
  rw [if_neg (by simp [Document.isNull_eq_false.2 hnull])]
  by_cases hdepth : depth ≤ rules.maxDepth
  · rw [if_neg (Nat.not_lt.2 hdepth)]
    cases hkind : node.kind.admits value with
    | false =>
      rw [Node.findings_wrongKind hdepth hnull hkind]
      cases node <;> cases value <;> first | exact Walk.findings_emit .. | simp [Node.kind,
        Kind.admits] at hkind
    | true =>
      cases node with
      | str =>
        obtain ⟨text, rfl⟩ := Kind.admits_str.1 hkind
        rw [Node.findings_str hdepth, Walk.findings_emit]
      | int =>
        obtain ⟨i, rfl⟩ := Kind.admits_int.1 hkind
        rw [Node.findings_int hdepth, Walk.findings_emit]
      | bool =>
        obtain ⟨b, rfl⟩ := Kind.admits_bool.1 hkind
        rw [Node.findings_bool hdepth, Walk.findings_emit]
      | dict =>
        obtain ⟨entries, rfl⟩ := Kind.admits_dict.1 hkind
        rw [Node.findings_dict hdepth, Walk.findings_append, findings_otherKeys,
          Walk.findings_flatMap, List.map_append, List.map_flatMap]
        simp only [findings_staticKey]
      | list =>
        obtain ⟨values, rfl⟩ := Kind.admits_list.1 hkind
        rw [Node.findings_list hdepth, Walk.findings_append, Walk.findings_emit, findings_elements,
          List.map_append]
  · rw [if_pos (Nat.not_le.1 hdepth), Walk.findings_emit, Node.findings.eq_def]
    simp [Document.isNull_eq_false.2 hnull, Nat.not_le.1 hdepth]

end Visit

/-! ### Asking for findings -/

namespace Walk

theorem findings_start (node : Node) (value : Document) :
    findings rules (start node value) = node.findings rules 0 none value := by
  rw [findings, start, List.flatMap_singleton]
  exact List.map_id' _

/-- The next finding is the first that is left, and the others are left after it. -/
theorem findings_eq (walk : Walk) :
    walk.findings rules = match walk.next? rules with
      | none => []
      | some (finding, rest) => finding :: rest.findings rules := by
  induction walk using next?.induct rules with
  | case1 =>
    rw [next?]
    rfl
  | case2 finding rest =>
    rw [next?]
    rfl
  | case3 visit rest ih =>
    rw [next?, ← ih, findings_append, visit.findings_expand]
    rfl

theorem toList_eq_findings (walk : Walk) : walk.toList rules = walk.findings rules := by
  induction walk using toList.induct rules with
  | case1 walk hnext =>
    rw [toList, findings_eq, hnext]
  | case2 walk finding rest hnext ih =>
    rw [toList, findings_eq walk, hnext]
    exact congrArg (finding :: ·) ih

theorem head?_findings (walk : Walk) :
    (walk.findings rules).head? = (walk.next? rules).map Prod.fst := by
  rw [findings_eq]
  cases walk.next? rules <;> rfl

end Walk

/-! ### Findings of a value stay together -/

def Visit.CallsFor (rules : Rules) (visit inner : Visit) : Prop := .look inner ∈ visit.expand rules

theorem Visit.CallsFor.findings_isInfix {visit inner : Visit} (h : visit.CallsFor rules inner) :
    inner.findings rules <:+: visit.findings rules := by
  obtain ⟨before, after, hexpand⟩ := List.append_of_mem h
  rw [← visit.findings_expand, hexpand, Walk.findings_append, Walk.findings, Walk.findings,
    List.flatMap_cons]
  exact ⟨_, _, List.append_assoc ..⟩

/-- The findings of every value that is looked into stay together, whatever stands around them. -/
theorem Visit.findings_isInfix {visit inner : Visit}
    (h : Relation.ReflTransGen (Visit.CallsFor rules) visit inner) :
    inner.findings rules <:+: visit.findings rules := by
  induction h with
  | refl => exact List.infix_rfl
  | tail _ hlast ih => exact hlast.findings_isInfix.trans ih

/-- Asking a walk for findings until there are none left gives the findings of the instance in
document order. The first question gives the first of them, and those of every value that is looked
into on the way stand together. -/
theorem Walk.toList_start (schema : Schema) (node : Node) (value : Document) :
    (start node value).toList schema.rules = schema.findingsAt node value ∧
    ((start node value).next? schema.rules).map Prod.fst = (schema.findingsAt node value).head? ∧
    ∀ inner, Relation.ReflTransGen (Visit.CallsFor schema.rules) ⟨node, value, [], 0, none⟩ inner →
      inner.findings schema.rules <:+: schema.findingsAt node value := by
  have hstart : (start node value).findings schema.rules = schema.findingsAt node value :=
    findings_start node value
  refine ⟨(toList_eq_findings _).trans hstart, ?_, fun inner hinner => ?_⟩
  · rw [← head?_findings, hstart]
  · rw [← hstart, start, findings, List.flatMap_singleton]
    exact Visit.findings_isInfix hinner

def numbersNode : Node :=
  .list .empty (some (.int .empty ⟨none, some 1, none⟩)) ⟨none, none, some 1⟩

def numbersSchema : Schema :=
  ⟨numbersNode, numbersNode, [], Fingerprint.ofDocument numbersNode.toDocument, .standard⟩

/-- The length of the list comes first, and the finding of the first element
before that of the second. -/
theorem Walk.toList_start_numbers :
    (start numbersNode (.array [.int 0, .string "x"])).toList numbersSchema.rules =
      [⟨[], .longList 2 1⟩, ⟨[.index 0], .lowInt 0 1⟩,
        ⟨[.index 1], .wrongKind .int (.string "x")⟩] ∧
    ((start numbersNode (.array [.int 0, .string "x"])).next? numbersSchema.rules).map Prod.fst =
      some ⟨[], .longList 2 1⟩ ∧
    ∃ inner, Relation.ReflTransGen (Visit.CallsFor numbersSchema.rules)
        ⟨numbersNode, .array [.int 0, .string "x"], [], 0, none⟩ inner ∧
      inner.findings numbersSchema.rules = [⟨[.index 0], .lowInt 0 1⟩] ∧
      inner.findings numbersSchema.rules <:+: numbersSchema.findingsAt numbersNode
        (.array [.int 0, .string "x"]) := by
  have hfindings : numbersSchema.findingsAt numbersNode (.array [.int 0, .string "x"]) =
      [⟨[], .longList 2 1⟩, ⟨[.index 0], .lowInt 0 1⟩,
        ⟨[.index 1], .wrongKind .int (.string "x")⟩] := by decide +kernel
  obtain ⟨hall, hfirst, hinner⟩ :=
    toList_start numbersSchema numbersNode (.array [.int 0, .string "x"])
  have hcalls : Visit.CallsFor numbersSchema.rules
      ⟨numbersNode, .array [.int 0, .string "x"], [], 0, none⟩
      ⟨.int .empty ⟨none, some 1, none⟩, .int 0, [.index 0], 1, none⟩ :=
    List.mem_cons_of_mem _ List.mem_cons_self
  rw [hfindings] at hall hfirst
  exact ⟨hall, hfirst, _, .single hcalls, by decide +kernel, hinner _ (.single hcalls)⟩

theorem Schema.isValidAt_iff {schema : Schema} {node : Node} {value : Document} :
    schema.isValidAt node value = true ↔ schema.findingsAt node value = [] := by
  rw [isValidAt, Option.isNone_iff_eq_none, ← Option.map_eq_none_iff, ← Walk.head?_findings,
    Walk.findings_start, List.head?_eq_none_iff]
  rfl

end DataSchema
