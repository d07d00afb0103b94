import DataSchema.Proofs.Schema.Loaded

/-!
# Validation decides conformance

`Conforms` says what it means for an instance to follow a node, without validation: no order of
visits, no paths, no memory of primary keys, no depth. For a loaded schema, validation finds nothing
exactly when the instance conforms to the root.
-/

namespace DataSchema

open Validation

/-! ### The relation -/

/-- What a text node asks of a text. Lengths count code points, and the pattern is the one
that its source denotes. -/
structure TextConstraints.Allows (formats : Formats) (c : TextConstraints) (text : String) :
    Prop where
  minLength : ∀ min ∈ c.minLength, min ≤ text.length
  maxLength : ∀ max ∈ c.maxLength, text.length ≤ max
  pattern : ∀ source ∈ c.patternSource?, ∃ compiled, Pattern.ofSource? source = some compiled ∧
    compiled.isMatch text = true
  format : ∀ format ∈ c.format, formats.check? format text = some true
  listed : ∀ values ∈ c.validValues,
    if c.ignoresCase then ∃ value ∈ values, Text.lowercase value = Text.lowercase text
    else text ∈ values

structure IntConstraints.Allows (c : IntConstraints) (value : Int) : Prop where
  word : -(signedCount : Int) ≤ value ∧ value < signedCount
  min : ∀ min ∈ c.min, min ≤ value
  max : ∀ max ∈ c.max, value ≤ max
  listed : ∀ values ∈ c.validValues, value ∈ values

structure ListConstraints.Allows (c : ListConstraints) (count : Nat) : Prop where
  minLength : ∀ min ∈ c.minLength, min ≤ count
  maxLength : ∀ max ∈ c.maxLength, count ≤ max

/-- The instance follows the node. `required` is a key that has to be set in the instance besides
the required ones: the primary key, when the instance is an element of a keyed list. -/
inductive Conforms (formats : Formats) : Node → Option String → Document → Prop
  | null {node required} : Conforms formats node required .null
  | str {a c required text} :
      c.Allows formats text → Conforms formats (.str a c) required (.string text)
  | int {a c required value} : c.Allows value → Conforms formats (.int a c) required (.int value)
  | bool {a required value} {c : BoolConstraints} : (∀ values ∈ c.validValues, value ∈ values) →
      Conforms formats (.bool a c) required (.bool value)
  | dict {a keys dynamicKeys other required entries}
      (present : ∀ key child, (key, child) ∈ keys.getD [] →
        ∀ value, entries.lookup key = some value → value ≠ .null →
        Conforms formats child none value)
      (absent : ∀ key child, (key, child) ∈ keys.getD [] →
        (∀ value, entries.lookup key = some value → value = .null) →
        child.isRequired = false ∧ required ≠ some key)
      (dynamic : ∀ key value, (key, value) ∈ entries → key ∉ (keys.getD []).map Prod.fst →
        ∀ child ∈ dynamicKeys,
        Conforms formats child none value)
      (closed : ∀ key value, (key, value) ∈ entries → key ∉ (keys.getD []).map Prod.fst →
        dynamicKeys = none →
        other = some true) :
      Conforms formats (.dict a keys dynamicKeys other) required (.object entries)
  | list {a items required values} {c : ListConstraints} (length : c.Allows values.length)
      (nonNull : items.isSome → ∀ value ∈ values, value ≠ .null)
      (each : ∀ item ∈ items, ∀ value ∈ values, Conforms formats item c.primaryKey value)
      (distinct : (identities c.primaryKey values).Nodup) :
      Conforms formats (.list a items c) required (.array values)

theorem Conforms.admits {formats : Formats} {node : Node} {required : Option String}
    {value : Document} (h : Conforms formats node required value) (hnull : value ≠ .null) :
    node.kind.admits value = true := by
  cases h <;> first | rfl | exact absurd rfl hnull

/-- Every entry of a conforming object follows the node that governs it; what else is asked only
depends on which keys are set. -/
theorem conforms_object_iff {formats : Formats} {a : Attributes}
    {keys : Option (List (String × Node))} {dynamicKeys : Option Node} {other : Option Bool}
    {required : Option String} {entries : Entries Document}
    (hkeys : ((keys.getD []).map Prod.fst).Nodup) (hentries : (entries.map Prod.fst).Nodup) :
    Conforms formats (.dict a keys dynamicKeys other) required (.object entries) ↔
      (∀ entry ∈ entries, ∀ child ∈ (Node.dict a keys dynamicKeys other).child? entry.1,
        Conforms formats child none entry.2) ∧
      (∀ key child, (key, child) ∈ keys.getD [] →
        (∀ value, entries.lookup key = some value → value = .null) →
        child.isRequired = false ∧ required ≠ some key) ∧
      (∀ key value, (key, value) ∈ entries → key ∉ (keys.getD []).map Prod.fst →
        dynamicKeys = none → other = some true) := by
  constructor
  · rintro (_ | _ | _ | _ | ⟨hpresent, habsent, hdynamic, hclosed⟩)
    refine ⟨fun entry hentry child hchild => ?_, habsent, hclosed⟩
    rcases Node.child?_eq_some hchild with hstatic | ⟨hother, rfl⟩
    · by_cases hnull : entry.2 = .null
      · exact hnull ▸ .null
      · exact hpresent entry.1 child hstatic entry.2 (Entries.lookup_of_mem hentries hentry) hnull
    · exact hdynamic entry.1 entry.2 hentry hother child rfl
  · rintro ⟨hbelow, habsent, hclosed⟩
    refine .dict (fun key child hstatic value hlookup _ => ?_) habsent
      (fun key value hentry hother child hchild => ?_) hclosed
    · exact hbelow (key, value) (Entries.mem_of_lookup hlookup) child
        (Node.child?_of_mem hkeys hstatic)
    · exact hbelow (key, value) hentry child ((Node.child?_of_not_mem hother).trans hchild)

/-! ### Scalars -/

namespace TextConstraints

variable {rules : Rules} {c : TextConstraints} {text : String}

theorem lengthProblems_eq_nil_iff :
    c.lengthProblems text = [] ↔ (∀ min ∈ c.minLength, min ≤ text.length) ∧ ∀ max ∈ c.maxLength,
      text.length ≤ max := by
  unfold lengthProblems
  cases c.minLength <;> cases c.maxLength <;> simp

theorem patternProblems_eq_nil_iff (hknown : c.Known rules) (hsound : rules.patterns.Sound) :
    c.patternProblems rules text = [] ↔
      ∀ source ∈ c.patternSource?, ∃ compiled, Pattern.ofSource? source = some compiled ∧
        compiled.isMatch text = true := by
  unfold patternProblems
  cases hpattern : c.pattern with
  | none => simp [patternSource?, hpattern]
  | some pattern =>
    obtain ⟨source, hsource⟩ : ∃ source, c.patternSource? = some source := by
      simp [patternSource?, hpattern]
    obtain ⟨compiled, hlookup⟩ := Option.isSome_iff_exists.1 (hknown.pattern source hsource)
    have hcompiled := hsound source compiled hlookup
    simp only [hsource, hlookup, ite_eq_left_iff, Bool.not_eq_true, List.cons_ne_self, imp_false,
      Bool.not_eq_false, Option.mem_def, Option.some.injEq, forall_eq', hcompiled, exists_eq_left']

theorem formatProblems_eq_nil_iff :
    c.formatProblems rules text = [] ↔
      ∀ format ∈ c.format, rules.formats.check? format text = some true := by
  unfold formatProblems
  cases hformat : c.format with
  | none => simp
  | some format => rcases hcheck : rules.formats.check? format text with _ | _ | _ <;> simp [hcheck]

theorem valueProblems_eq_nil_iff :
    c.valueProblems text = [] ↔ ∀ values ∈ c.validValues,
      if c.ignoresCase then ∃ value ∈ values, Text.lowercase value = Text.lowercase text
        else text ∈ values := by
  unfold valueProblems
  cases hvalues : c.validValues with
  | none => simp
  | some values => cases hcase : c.ignoresCase <;> simp [lists, hcase]

theorem problems_eq_nil_iff (hknown : c.Known rules) (hsound : rules.patterns.Sound) :
    c.problems rules text = [] ↔ c.Allows rules.formats text := by
  simp only [problems, List.append_eq_nil_iff, lengthProblems_eq_nil_iff,
    patternProblems_eq_nil_iff hknown hsound, formatProblems_eq_nil_iff, valueProblems_eq_nil_iff]
  constructor
  · rintro ⟨⟨⟨⟨hmin, hmax⟩, hpattern⟩, hformat⟩, hlisted⟩
    exact ⟨hmin, hmax, hpattern, hformat, hlisted⟩
  · intro h
    exact ⟨⟨⟨⟨h.minLength, h.maxLength⟩, h.pattern⟩, h.format⟩, h.listed⟩

end TextConstraints

theorem isSignedWord_iff {i : Int} :
    isSignedWord i = true ↔ -(signedCount : Int) ≤ i ∧ i < signedCount := by
  rw [isSignedWord, Bool.and_eq_true, decide_eq_true_iff, decide_eq_true_iff]

theorem IntConstraints.problems_eq_nil_iff {c : IntConstraints} {value : Int} :
    c.problems value = [] ↔ c.Allows value := by
  have hword := isSignedWord_iff (i := value)
  unfold problems
  cases hsigned : isSignedWord value with
  | false =>
    rw [hsigned] at hword
    simp only [Bool.not_false, if_true, List.cons_ne_self, false_iff]
    exact fun h => absurd (hword.2 h.word) (by simp)
  | true =>
    have hbounds : c.Allows value ↔
        ((∀ min ∈ c.min, min ≤ value) ∧ ∀ max ∈ c.max, value ≤ max) ∧
          ∀ values ∈ c.validValues, value ∈ values := by
      constructor
      · intro h
        exact ⟨⟨h.min, h.max⟩, h.listed⟩
      · rintro ⟨⟨hmin, hmax⟩, hlisted⟩
        exact ⟨hword.1 hsigned, hmin, hmax, hlisted⟩
    rw [hbounds]
    cases c.min <;> cases c.max <;> cases c.validValues <;> simp [and_assoc]

theorem BoolConstraints.problems_eq_nil_iff {c : BoolConstraints} {value : Bool} :
    c.problems value = [] ↔ ∀ values ∈ c.validValues, value ∈ values := by
  unfold problems
  cases c.validValues <;> simp

theorem ListConstraints.problems_eq_nil_iff {c : ListConstraints} {count : Nat} :
    c.problems count = [] ↔ c.Allows count := by
  have hboth : c.problems count = [] ↔ (∀ min ∈ c.minLength, min ≤ count) ∧ ∀ max ∈ c.maxLength,
      count ≤ max := by
    unfold problems
    cases c.minLength <;> cases c.maxLength <;> simp
  rw [hboth]
  exact ⟨fun h => ⟨h.1, h.2⟩, fun h => ⟨h.minLength, h.maxLength⟩⟩

/-! ### Whole instances -/

namespace Applicable

variable {rules : Rules} {depth : Nat} {node : Node} {required : Option String} {value : Document}

/-- Null always conforms and a value of another kind never does, so only values of the node's
kind have to be compared. -/
theorem findings_eq_nil_iff_of_admits (hdepth : depth ≤ rules.maxDepth)
    (hadmits : node.kind.admits value = true →
      (node.findings rules depth required value = [] ↔
        Conforms rules.formats node required value)) :
    node.findings rules depth required value = [] ↔ Conforms rules.formats node required value := by
  by_cases hnull : value = .null
  · subst value
    exact iff_of_true (Node.findings_null node) .null
  cases hkind : node.kind.admits value with
  | true => exact hadmits hkind
  | false =>
    rw [Node.findings_wrongKind hdepth hnull hkind]
    refine iff_of_false (by simp) fun hconforms => ?_
    simp [hconforms.admits hnull] at hkind

theorem ofElement_eq_nil_iff {primaryKey : Option String} {items : Option Node}
    (hitem : ∀ item ∈ items, ∀ value, item.findings rules depth primaryKey value = [] ↔
      Conforms rules.formats item primaryKey value) :
    ofElement rules depth primaryKey items value = [] ↔
      (items.isSome → value ≠ .null) ∧ ∀ item ∈ items,
        Conforms rules.formats item primaryKey value := by
  cases items with
  | none => simp [ofElement]
  | some item =>
    simp only [ofElement, element, Option.isSome_some, forall_const, Option.mem_def,
      Option.some.injEq, forall_eq']
    rw [← hitem item rfl value]
    cases hnull : value.isNull with
    | true =>
      have hvalue : value = .null :=
        Decidable.not_not.1 fun hne => by simp [Document.isNull_eq_false.2 hne] at hnull
      simp [hvalue]
    | false => simp [Document.isNull_eq_false.1 hnull]

theorem findings_eq_nil_iff (h : Applicable rules depth node) (hsound : rules.patterns.Sound) :
    node.findings rules depth required value = [] ↔ Conforms rules.formats node required value := by
  induction h generalizing required value with
  | str hdepth hknown =>
    refine findings_eq_nil_iff_of_admits hdepth fun hkind => ?_
    obtain ⟨text, rfl⟩ := Kind.admits_str.1 hkind
    rw [Node.findings_str hdepth, List.map_eq_nil_iff,
      TextConstraints.problems_eq_nil_iff hknown hsound]
    exact ⟨.str, fun | .str hallows => hallows⟩
  | int hdepth =>
    refine findings_eq_nil_iff_of_admits hdepth fun hkind => ?_
    obtain ⟨i, rfl⟩ := Kind.admits_int.1 hkind
    rw [Node.findings_int hdepth, List.map_eq_nil_iff, IntConstraints.problems_eq_nil_iff]
    exact ⟨.int, fun | .int hallows => hallows⟩
  | bool hdepth =>
    refine findings_eq_nil_iff_of_admits hdepth fun hkind => ?_
    obtain ⟨b, rfl⟩ := Kind.admits_bool.1 hkind
    rw [Node.findings_bool hdepth, List.map_eq_nil_iff, BoolConstraints.problems_eq_nil_iff]
    exact ⟨.bool, fun | .bool hallows => hallows⟩
  | dict hdepth _ _ ihkeys ihdynamic =>
    refine findings_eq_nil_iff_of_admits hdepth fun hkind => ?_
    obtain ⟨entries, rfl⟩ := Kind.admits_dict.1 hkind
    rw [Node.findings_dict hdepth, List.append_eq_nil_iff, List.flatMap_eq_nil_iff,
      otherEntries_eq_nil_iff]
    simp only [ofStaticKey_eq_nil_iff]
    constructor
    · rintro ⟨hstatic, hother⟩
      refine .dict (fun key child hdeclared value hlookup hnull => ?_) (fun key child hdeclared =>
          (hstatic _ hdeclared).2)
        (fun key value hentry hnot child hchild => ?_) (fun key value hentry hnot hnone => ?_)
      · exact (ihkeys (key, child) hdeclared).1 ((hstatic _ hdeclared).1 value hlookup hnull)
      · exact (ihdynamic child hchild).1 ((hother _ hentry hnot).1 _ (by rw [hchild]; rfl))
      · have hallowed := (hother _ hentry hnot).2 (by rw [hnone]; rfl)
        simpa [Option.getD_eq_iff] using hallowed
    · rintro (_ | _ | _ | _ | ⟨hpresent, habsent, hdynamic, hclosed⟩)
      refine ⟨fun declared hdeclared => ⟨fun value hlookup hnull => ?_, habsent _ _ hdeclared⟩,
        fun entry hentry hnot => ⟨?_, ?_⟩⟩
      · exact (ihkeys declared hdeclared).2 (hpresent _ _ hdeclared value hlookup hnull)
      · intro check hcheck
        obtain ⟨child, hchild, rfl⟩ := Option.map_eq_some_iff.1 hcheck
        exact (ihdynamic child hchild).2 (hdynamic _ _ hentry hnot child hchild)
      · intro hnone
        rw [hclosed _ _ hentry hnot (Option.map_eq_none_iff.1 hnone)]
        rfl
  | list hdepth _ ih =>
    refine findings_eq_nil_iff_of_admits hdepth fun hkind => ?_
    obtain ⟨values, rfl⟩ := Kind.admits_list.1 hkind
    rw [Node.findings_list hdepth, List.append_eq_nil_iff, List.map_eq_nil_iff,
      ListConstraints.problems_eq_nil_iff, elements_eq_nil_iff]
    simp only [ofElement_eq_nil_iff fun item hitem value => ih item hitem, List.lookup_nil,
      implies_true, and_true]
    constructor
    · rintro ⟨hlength, heach, hdistinct⟩
      exact .list hlength (fun hsome value hvalue => (heach value hvalue).1 hsome)
        (fun item hitem value hvalue => (heach value hvalue).2 item hitem) hdistinct
    · rintro (_ | _ | _ | _ | _ | ⟨hlength, hnonNull, heach, hdistinct⟩)
      exact ⟨hlength, fun value hvalue => ⟨fun hsome => hnonNull hsome value hvalue,
          fun item hitem => heach item hitem value hvalue⟩,
        hdistinct⟩

end Applicable

/-- Validation with a loaded schema finds nothing exactly in the instances
that conform to the root. -/
theorem Loaded.validate_eq_nil_iff_conforms {schema : Schema} (h : Loaded schema)
    (value : Document) :
    schema.validate value = [] ↔ Conforms schema.loader.formats schema.root none value :=
  h.applicable.findings_eq_nil_iff h.patterns_sound

/-- The schema of hosts and ports lets an instance through that sets the host in capitals, and
so the instance conforms. -/
theorem Loaded.conforms_host :
    ∃ schema, Loaded schema ∧ schema.validate (.object [("host", .string "ABC")]) = [] ∧
    Conforms schema.loader.formats schema.root none (.object [("host", .string "ABC")]) := by
  have hrun : (Loader.withWords.load hostDocument).toOption.any
      (fun schema => (schema.validate (.object [("host", .string "ABC")])).isEmpty) = true := by
    decide +kernel
  obtain ⟨schema, hload, htest⟩ := exists_ok_of_any hrun
  have hvalid : schema.validate (.object [("host", .string "ABC")]) = [] := List.isEmpty_iff.1 htest
  have hloaded : Loaded schema := .load hload
  exact ⟨schema, hloaded, hvalid, (hloaded.validate_eq_nil_iff_conforms _).1 hvalid⟩

end DataSchema
