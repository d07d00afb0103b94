import DataSchema.Merge
import DataSchema.Proofs.Document.Entries
import DataSchema.Validation.Basic

/-!
# What the findings of an instance consist of

Equations for `Node.findings`, one for each kind of node and shape of value, in which the static
keys of a dict and the elements of a list appear through library operations. The proofs about
validation start from these and do not open the recursion of the validator.
-/

namespace DataSchema

namespace Kind

variable {value : Document}

theorem admits_str : Kind.str.admits value = true ↔ ∃ text, value = .string text := by
  cases value <;> simp [admits]

theorem admits_int : Kind.int.admits value = true ↔ ∃ i, value = .int i := by
  cases value <;> simp [admits]

theorem admits_bool : Kind.bool.admits value = true ↔ ∃ b, value = .bool b := by
  cases value <;> simp [admits]

theorem admits_dict : Kind.dict.admits value = true ↔ ∃ entries, value = .object entries := by
  cases value <;> simp [admits]

theorem admits_list : Kind.list.admits value = true ↔ ∃ elements, value = .array elements := by
  cases value <;> simp [admits]

end Kind

namespace Validation

def ofStaticKey (required : Option String) (check : Node → Document → List Finding)
    (entries : Entries Document) (declared : String × Node) : List Finding :=
  match (entries.lookup declared.1).filter fun value => !value.isNull with
  | some value => underKey declared.1 (check declared.2 value)
  | none =>
    if declared.2.isRequired || required == some declared.1 then
      [⟨[.key declared.1], .missingKey declared.1⟩] else []

def ofOtherKey (declared : List String) (check : Option (Document → List Finding))
    (allowOtherKeys : Bool) (entry : String × Document) : List Finding :=
  if declared.contains entry.1 then []
  else match check with
    | some check => underKey entry.1 (check entry.2)
    | none => unknownKey declared allowOtherKeys entry.1 entry.2

/-- The findings of an element, before its primary key is compared. Without a schema for the
elements there are none. -/
def ofElement (rules : Rules) (depth : Nat) (primaryKey : Option String) (items : Option Node)
    (value : Document) : List Finding :=
  match items with
  | some item => element item.kind (item.findings rules depth primaryKey) value
  | none => []

/-- The text of the primary key value of an element, if the list is keyed and the value is set. -/
def identityOf? (primaryKey : Option String) (value : Document) : Option String :=
  primaryKey.bind fun key => Merge.identity? key value

def identities (primaryKey : Option String) (values : List Document) : List String :=
  values.filterMap (identityOf? primaryKey)

theorem problem_of_mem_underKey {key : String} {findings : List Finding} {finding : Finding}
    (h : finding ∈ underKey key findings) :
    ∃ below ∈ findings, finding.problem = below.problem := by
  obtain ⟨below, hbelow, rfl⟩ := List.mem_map.1 h
  exact ⟨below, hbelow, rfl⟩

theorem problem_of_mem_underIndex {index : Nat} {findings : List Finding} {finding : Finding}
    (h : finding ∈ underIndex index findings) :
    ∃ below ∈ findings, finding.problem = below.problem := by
  obtain ⟨below, hbelow, rfl⟩ := List.mem_map.1 h
  exact ⟨below, hbelow, rfl⟩

end Validation

open Validation

namespace Node

variable {rules : Rules} {depth : Nat} {required : Option String}

@[simp] theorem findings_null (node : Node) : node.findings rules depth required .null = [] := by
  rw [findings.eq_def]
  rfl

theorem findings_tooDeep {node : Node} {value : Document} (hdepth : rules.maxDepth < depth)
    (hnull : value ≠ .null) :
    node.findings rules depth required value = [here (.tooDeep rules.maxDepth)] := by
  rw [findings.eq_def]
  simp only [Document.isNull_eq_false.2 hnull, Bool.false_eq_true, if_false, if_pos hdepth]

theorem findings_wrongKind {node : Node} {value : Document} (hdepth : depth ≤ rules.maxDepth)
    (hnull : value ≠ .null) (hkind : node.kind.admits value = false) :
    node.findings rules depth required value = [here (.wrongKind node.kind value)] := by
  rw [findings.eq_def]
  simp only [Document.isNull_eq_false.2 hnull, Bool.false_eq_true, if_false,
    if_neg (Nat.not_lt.2 hdepth)]
  cases node <;> cases value <;> simp_all [kind, Kind.admits]

/-- Whatever is found in an instance, it is of the node's kind or this is the finding. -/
theorem eq_wrongKind_or_admits {node : Node} {value : Document} {finding : Finding}
    (hdepth : depth ≤ rules.maxDepth) (hmem : finding ∈ node.findings rules depth required value) :
    finding = here (.wrongKind node.kind value) ∨ node.kind.admits value = true := by
  by_cases hnull : value = .null
  · subst value
    simp at hmem
  cases hkind : node.kind.admits value with
  | true => exact .inr rfl
  | false =>
    rw [findings_wrongKind hdepth hnull hkind] at hmem
    exact .inl (List.mem_singleton.1 hmem)

theorem findings_str {a : Attributes} {c : TextConstraints} (hdepth : depth ≤ rules.maxDepth)
    (text : String) :
    (Node.str a c).findings rules depth required (.string text) =
      (c.problems rules text).map here := by
  simp only [findings, Document.isNull, Bool.false_eq_true, if_false, if_neg (Nat.not_lt.2 hdepth)]

theorem findings_int {a : Attributes} {c : IntConstraints} (hdepth : depth ≤ rules.maxDepth)
    (value : Int) :
    (Node.int a c).findings rules depth required (.int value) = (c.problems value).map here := by
  simp only [findings, Document.isNull, Bool.false_eq_true, if_false, if_neg (Nat.not_lt.2 hdepth)]

theorem findings_bool {a : Attributes} {c : BoolConstraints} (hdepth : depth ≤ rules.maxDepth)
    (value : Bool) :
    (Node.bool a c).findings rules depth required (.bool value) = (c.problems value).map here := by
  simp only [findings, Document.isNull, Bool.false_eq_true, if_false, if_neg (Nat.not_lt.2 hdepth)]

theorem staticFindings_eq_flatMap (entries : Entries Document) (keys : List (String × Node)) :
    staticFindings rules depth required entries keys =
      keys.flatMap (ofStaticKey required (findings rules (depth + 1) none) entries) := by
  induction keys with
  | nil => simp [staticFindings]
  | cons declared rest ih =>
    rw [staticFindings, ih, List.flatMap_cons]
    rfl

theorem findings_dict {a : Attributes} {keys : Option (List (String × Node))}
    {dynamicKeys : Option Node} {other : Option Bool} (hdepth : depth ≤ rules.maxDepth)
    (entries : Entries Document) :
    (Node.dict a keys dynamicKeys other).findings rules depth required (.object entries) =
      (keys.getD []).flatMap (ofStaticKey required (findings rules (depth + 1) none) entries)
        ++ otherEntries ((keys.getD []).map Prod.fst)
          (dynamicKeys.map (findings rules (depth + 1) none))
          (other.getD false) entries := by
  rw [findings.eq_def]
  simp only [Document.isNull, Bool.false_eq_true, if_false, if_neg (Nat.not_lt.2 hdepth)]
  cases keys <;> cases dynamicKeys <;> simp [staticFindings_eq_flatMap]

theorem findings_list {a : Attributes} {items : Option Node} {c : ListConstraints}
    (hdepth : depth ≤ rules.maxDepth) (values : List Document) :
    (Node.list a items c).findings rules depth required (.array values) =
      (c.problems values.length).map here
        ++ elements c.primaryKey (ofElement rules (depth + 1) c.primaryKey items) 0 [] values := by
  rw [findings.eq_def]
  simp only [Document.isNull, Bool.false_eq_true, if_false, if_neg (Nat.not_lt.2 hdepth)]
  cases items <;> rfl

end Node

namespace Validation

/-! ### Elements of a list -/

variable {primaryKey : Option String} {check : Document → List Finding}

theorem exists_of_mem_repetition {seen : Seen} {index : Nat} {element : Document}
    {finding : Finding} (h : finding ∈ repetition primaryKey seen index element) :
    ∃ key first held, primaryKey = some key ∧
      element.getSet? key = some held ∧ finding = ⟨[.index index, .key key],
        .repeatedKey key first held⟩ := by
  unfold repetition at h
  split at h
  · cases h
  · rename_i key
    split at h
    · cases h
    · rename_i held hheld
      split at h
      · exact ⟨key, _, held, rfl, hheld, List.mem_singleton.1 h⟩
      · cases h

theorem repetition_congr {seen : Seen} {index : Nat} {value value' : Document}
    (h : ∀ key ∈ primaryKey, value'.getSet? key = value.getSet? key) :
    repetition primaryKey seen index value' = repetition primaryKey seen index value := by
  cases primaryKey with
  | none => rfl
  | some key => rw [repetition, repetition, h key rfl]

theorem remember_congr {seen : Seen} {index : Nat} {value value' : Document}
    (h : ∀ key ∈ primaryKey, value'.getSet? key = value.getSet? key) :
    remember primaryKey seen index value' = remember primaryKey seen index value := by
  cases primaryKey with
  | none => rfl
  | some key => rw [remember, remember, h key rfl]

theorem category_of_mem_repetition {seen : Seen} {index : Nat} {value : Document}
    {finding : Finding} (h : finding ∈ repetition primaryKey seen index value) :
    finding.problem.category = .duplicateKey := by
  obtain ⟨key, first, held, -, -, rfl⟩ := exists_of_mem_repetition h
  rfl

/-- A finding of the elements belongs to one of them, or says that it repeats a primary key. -/
theorem exists_of_mem_elements {index : Nat} {seen : Seen} {values : List Document}
    {finding : Finding} (h : finding ∈ elements primaryKey check index seen values) :
    ∃ position value, values[position]? = some value ∧
      ((∃ below ∈ check value, finding = below.below (.index (index + position))) ∨
        ∃ key first held, primaryKey = some key ∧ value.getSet? key = some held ∧
          finding = ⟨[.index (index + position), .key key], .repeatedKey key first held⟩) := by
  induction values generalizing index seen with
  | nil => cases h
  | cons value rest ih =>
    rw [elements, List.mem_append, List.mem_append] at h
    rcases h with (hcheck | hrepetition) | hrest
    · obtain ⟨below, hbelow, rfl⟩ := List.mem_map.1 hcheck
      exact ⟨0, value, rfl, .inl ⟨below, hbelow, rfl⟩⟩
    · exact ⟨0, value, rfl, .inr (exists_of_mem_repetition hrepetition)⟩
    · obtain ⟨position, later, hlater, hfinding⟩ := ih hrest
      rw [Nat.succ_add_eq_add_succ] at hfinding
      exact ⟨position + 1, later, hlater, hfinding⟩

theorem repetition_eq_nil_iff {seen : Seen} {index : Nat} {value : Document} :
    repetition primaryKey seen index value = [] ↔
      ∀ identity ∈ identityOf? primaryKey value, seen.lookup identity = none := by
  cases primaryKey with
  | none => simp [repetition, identityOf?]
  | some key =>
    cases hset : value.getSet? key with
    | none => simp [repetition, identityOf?, Merge.identity?, hset]
    | some keyValue =>
      simp only [repetition, identityOf?, Option.bind_some, Merge.identity?, hset, Option.map_some,
        Option.mem_def, Option.some.injEq, forall_eq']
      cases hfirst : seen.lookup keyValue.compact <;> simp

theorem lookup_remember_eq_none_iff {seen : Seen} {index : Nat} {value : Document}
    {identity : String} :
    (remember primaryKey seen index value).lookup identity = none ↔
      seen.lookup identity = none ∧ identityOf? primaryKey value ≠ some identity := by
  cases primaryKey with
  | none => simp [remember, identityOf?]
  | some key =>
    cases hset : value.getSet? key with
    | none => simp [remember, identityOf?, Merge.identity?, hset]
    | some keyValue =>
      simp only [remember, identityOf?, Option.bind_some, Merge.identity?, hset, Option.map_some,
        ne_eq, Option.some.injEq]
      split
      · rename_i hseen
        refine ⟨fun hnone => ⟨hnone, fun heq => ?_⟩, And.left⟩
        simp [heq, hnone] at hseen
      · rw [List.lookup_cons]
        by_cases heq : identity = keyValue.compact
        · simp [heq]
        · simp only [beq_eq_false_iff_ne.2 heq, Ne.symm heq, not_false_eq_true, and_true]

/-- A list has no findings when its elements have none and no two primary key
values have the same text. -/
theorem elements_eq_nil_iff {index : Nat} {seen : Seen} {values : List Document} :
    elements primaryKey check index seen values = [] ↔ (∀ value ∈ values, check value = []) ∧
      (identities primaryKey values).Nodup ∧ ∀ identity ∈ identities primaryKey values,
        seen.lookup identity = none := by
  induction values generalizing index seen with
  | nil => simp [elements, identities]
  | cons value rest ih =>
    rw [elements, List.append_eq_nil_iff, List.append_eq_nil_iff, ih, repetition_eq_nil_iff,
      underIndex, List.map_eq_nil_iff]
    simp only [lookup_remember_eq_none_iff, List.forall_mem_cons]
    cases hidentity : identityOf? primaryKey value with
    | none =>
      simp only [identities, List.filterMap_cons_none hidentity]
      grind
    | some identity =>
      simp only [identities, List.filterMap_cons_some hidentity, List.nodup_cons]
      grind

theorem exists_of_mem_ofElement {rules : Rules} {depth : Nat}
    {items : Option Node} {value : Document} {finding : Finding}
    (h : finding ∈ ofElement rules depth primaryKey items value) : ∃ item, items = some item ∧
      (finding ∈ item.findings rules depth primaryKey value ∨ value = .null ∧
        finding = here (.wrongKind item.kind .null)) := by
  cases items with
  | none => cases h
  | some item =>
    refine ⟨item, rfl, ?_⟩
    rw [ofElement, Validation.element] at h
    split at h
    · rename_i hnull
      have hvalue : value = .null := by
        cases value <;> first | rfl | cases hnull
      subst hvalue
      exact .inr ⟨rfl, List.mem_singleton.1 h⟩
    · exact .inl h

/-! ### Keys of a dict -/

theorem exists_of_mem_ofStaticKey {required : Option String}
    {check : Node → Document → List Finding} {entries : Entries Document} {declared : String × Node}
    {finding : Finding} (h : finding ∈ ofStaticKey required check entries declared) :
    (∃ value below, entries.lookup declared.1 = some value ∧ below ∈ check declared.2 value ∧
      finding = below.below (.key declared.1)) ∨
    (∀ held, entries.lookup declared.1 = some held → held = .null) ∧
    finding = ⟨[.key declared.1], .missingKey declared.1⟩ := by
  unfold ofStaticKey at h
  split at h
  · rename_i value hset
    obtain ⟨below, hbelow, rfl⟩ := List.mem_map.1 h
    exact .inl ⟨value, below, (Option.filter_eq_some_iff.1 hset).1, hbelow, rfl⟩
  · rename_i hunset
    split at h
    · refine .inr ⟨fun held hheld => ?_, List.mem_singleton.1 h⟩
      rw [hheld] at hunset
      cases held <;> simp_all [Document.isNull]
    · cases h

theorem otherEntries_eq_flatMap (declared : List String) (check : Option (Document → List Finding))
    (allowOtherKeys : Bool) (entries : Entries Document) :
    otherEntries declared check allowOtherKeys entries =
      entries.flatMap (ofOtherKey declared check allowOtherKeys) := by
  induction entries with
  | nil => rfl
  | cons entry rest ih =>
    rw [List.flatMap_cons, ← ih, otherEntries, otherEntries, List.filter_cons, ofOtherKey.eq_def]
    cases declared.contains entry.1 <;> rfl

theorem exists_of_mem_ofOtherKey {declared : List String} {check : Option (Document → List Finding)}
    {allowOtherKeys : Bool} {entry : String × Document} {finding : Finding}
    (h : finding ∈ ofOtherKey declared check allowOtherKeys entry) :
    entry.1 ∉ declared ∧
    ((∃ inner ∈ check, ∃ below ∈ inner entry.2, finding = below.below (.key entry.1)) ∨
      check = none ∧ ∃ suggestion, finding = ⟨[.key entry.1],
        .unknownKey entry.1 suggestion entry.2⟩) := by
  unfold ofOtherKey at h
  split at h
  · cases h
  · rename_i hdeclared
    refine ⟨by simpa using hdeclared, ?_⟩
    cases check with
    | some inner =>
      obtain ⟨below, hbelow, rfl⟩ := List.mem_map.1 h
      exact .inl ⟨inner, rfl, below, hbelow, rfl⟩
    | none =>
      dsimp only at h
      unfold unknownKey at h
      split at h
      · cases h
      · exact .inr ⟨rfl, _, List.mem_singleton.1 h⟩

theorem ofStaticKey_eq_nil_iff {required : Option String} {check : Node → Document → List Finding}
    {entries : Entries Document} {declared : String × Node} :
    ofStaticKey required check entries declared = [] ↔
      (∀ value, entries.lookup declared.1 = some value → value ≠ .null →
        check declared.2 value = []) ∧
      ((∀ value, entries.lookup declared.1 = some value → value = .null) →
        declared.2.isRequired = false ∧ required ≠ some declared.1) := by
  unfold ofStaticKey
  cases hset : (entries.lookup declared.1).filter fun value => !value.isNull with
  | some value =>
    obtain ⟨hlookup, hnull⟩ := Option.filter_eq_some_iff.1 hset
    rw [Bool.not_eq_true', Document.isNull_eq_false] at hnull
    simp [underKey, hlookup, hnull]
  | none =>
    have hunset : ∀ value, entries.lookup declared.1 = some value → value = .null := by
      intro value hlookup
      rw [hlookup] at hset
      cases value <;> simp_all [Document.isNull]
    have hvacuous : ∀ value, entries.lookup declared.1 = some value → value ≠ .null →
        check declared.2 value = [] :=
      fun value hlookup hnull => absurd (hunset value hlookup) hnull
    simp only [ite_eq_right_iff, reduceCtorEq, imp_false, Bool.not_eq_true, Bool.or_eq_false_iff,
      beq_eq_false_iff_ne]
    exact ⟨fun h => ⟨hvacuous, fun _ => h⟩, fun h => h.2 hunset⟩

theorem otherEntries_eq_nil_iff {declared : List String} {check : Option (Document → List Finding)}
    {allowOtherKeys : Bool} {entries : Entries Document} :
    otherEntries declared check allowOtherKeys entries = [] ↔
      ∀ entry ∈ entries, entry.1 ∉ declared →
      (∀ inner ∈ check, inner entry.2 = []) ∧ (check = none → allowOtherKeys = true) := by
  unfold otherEntries
  simp only [List.flatMap_eq_nil_iff, List.mem_filter, Bool.not_eq_true', List.contains_eq_mem,
    decide_eq_false_iff_not, and_imp]
  refine forall_congr' fun entry => imp_congr_right fun _ => imp_congr_right fun _ => ?_
  cases check with
  | none => simp [unknownKey]
  | some inner => simp [underKey]

end Validation

end DataSchema
