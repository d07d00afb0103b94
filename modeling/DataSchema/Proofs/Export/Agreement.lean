import DataSchema.Proofs.Export.Keywords
import DataSchema.Proofs.Validation.Conformance

/-!
# Exported schemas agree with validation

JSON Schema has no word for the primary key of a list, for lower-casing, or for a format that draft
7 does not define, and it takes null and floats for values like any other. `Node.Portable` and
`Document.Plain` leave these out. On what remains, the exported schema accepts an instance exactly
when validation finds nothing in it but repeated primary keys.
-/

namespace DataSchema

open Validation JsonSchema

/-! ### What can be exported -/

/-- Neither the node nor one below it lower-cases its texts or has a format that
draft 7 does not define. -/
inductive Node.Portable : Node → Prop
  | str {a c} : c.convertToLowerCase ≠ some true →
      (∀ format ∈ c.format, format = "ipv4" ∨ format = "ipv6") → Portable (.str a c)
  | int {a c} : Portable (.int a c)
  | bool {a c} : Portable (.bool a c)
  | dict {a keys dynamicKeys other} :
      (∀ entry ∈ keys.getD [], Portable entry.2) → (∀ node ∈ dynamicKeys, Portable node) →
      Portable (.dict a keys dynamicKeys other)
  | list {a items c} : (∀ item ∈ items, Portable item) → Portable (.list a items c)

namespace Node

mutual

def isPortable : Node → Bool
  | .str _ c =>
    c.convertToLowerCase != some true && c.format.all fun format => format == "ipv4" ||
      format == "ipv6"
  | .int .. => true
  | .bool .. => true
  | .dict _ keys dynamicKeys _ => optionalKeysArePortable keys && optionalIsPortable dynamicKeys
  | .list _ items _ => optionalIsPortable items

def optionalIsPortable : Option Node → Bool
  | none => true
  | some node => node.isPortable

def optionalKeysArePortable : Option (List (String × Node)) → Bool
  | none => true
  | some keys => keysArePortable keys

def keysArePortable : List (String × Node) → Bool
  | [] => true
  | (_, node) :: rest => node.isPortable && keysArePortable rest

end

theorem keysArePortable_eq_all (keys : List (String × Node)) :
    keysArePortable keys = keys.all fun entry => entry.2.isPortable := by
  induction keys with
  | nil => rfl
  | cons entry rest ih => rw [keysArePortable, ih, List.all_cons]

theorem Portable.of_isPortable {node : Node} (h : node.isPortable = true) : node.Portable := by
  induction node with
  | str a c =>
    simp only [isPortable, Bool.and_eq_true, bne_iff_ne, Option.all_eq_true, Bool.or_eq_true,
      beq_iff_eq] at h
    exact .str h.1 h.2
  | int => exact .int
  | bool => exact .bool
  | dict a keys dynamicKeys other ihkeys ihdynamic =>
    rw [isPortable, Bool.and_eq_true] at h
    refine .dict (fun entry hentry => ihkeys entry hentry ?_) fun node hnode =>
      ihdynamic node hnode ?_
    · cases keys with
      | none => cases hentry
      | some keys =>
        rw [optionalKeysArePortable, keysArePortable_eq_all] at h
        exact List.all_eq_true.1 h.1 entry hentry
    · cases hnode
      exact h.2
  | list a items c ih =>
    refine .list fun item hitem => ih item hitem ?_
    cases hitem
    exact h

end Node

/-- There is no null at any depth, and every number is an integer that is a signed word. -/
inductive Document.Plain : Document → Prop
  | bool {value} : Plain (.bool value)
  | int {value} : isSignedWord value = true → Plain (.int value)
  | string {text} : Plain (.string text)
  | array {elements} : (∀ element ∈ elements, Plain element) → Plain (.array elements)
  | object {entries} : (∀ entry ∈ entries, Plain entry.2) → Plain (.object entries)

theorem Document.Plain.ne_null {value : Document} (h : value.Plain) : value ≠ .null := by
  rintro rfl
  cases h

theorem Document.Plain.ne_float {value : Document} (h : value.Plain) (x : Binary64) :
    value ≠ .float x := by
  rintro rfl
  cases h

theorem TextConstraints.ignoresCase_eq_false {c : TextConstraints}
    (h : c.convertToLowerCase ≠ some true) : c.ignoresCase = false := by
  rcases hconvert : c.convertToLowerCase with _ | _ | _ <;> simp_all [ignoresCase]

/-! ### Nothing but repeated primary keys -/

/-- Every finding is a repeated primary key. -/
def Validation.OnlyRepetitions (findings : List Finding) : Prop :=
  ∀ finding ∈ findings, finding.problem.category = .duplicateKey

namespace Validation.OnlyRepetitions

@[simp] theorem nil : OnlyRepetitions [] := List.forall_mem_nil _

theorem append_iff {before after : List Finding} :
    OnlyRepetitions (before ++ after) ↔ OnlyRepetitions before ∧ OnlyRepetitions after :=
  List.forall_mem_append

theorem flatMap_iff {α : Type} {values : List α} {check : α → List Finding} :
    OnlyRepetitions (values.flatMap check) ↔ ∀ value ∈ values, OnlyRepetitions (check value) := by
  simp only [OnlyRepetitions, List.forall_mem_flatMap]

theorem underKey_iff {key : String} {findings : List Finding} :
    OnlyRepetitions (underKey key findings) ↔ OnlyRepetitions findings :=
  List.forall_mem_map

theorem underIndex_iff {index : Nat} {findings : List Finding} :
    OnlyRepetitions (underIndex index findings) ↔ OnlyRepetitions findings :=
  List.forall_mem_map

theorem here_iff {problems : List Problem}
    (h : ∀ problem ∈ problems, problem.category ∈ Category.ofConstraints) :
    OnlyRepetitions (problems.map here) ↔ problems = [] := by
  rw [OnlyRepetitions, List.forall_mem_map]
  constructor
  · intro hrepeated
    refine List.eq_nil_iff_forall_not_mem.2 fun problem hproblem => ?_
    exact ne_of_mem_of_not_mem (h problem hproblem) (by decide) (hrepeated problem hproblem)
  · rintro rfl
    exact List.forall_mem_nil _

theorem ofStaticKey_iff {required : Option String} {check : Node → Document → List Finding}
    {entries : Entries Document} {declared : String × Node}
    (hplain : ∀ entry ∈ entries, entry.2 ≠ .null) :
    OnlyRepetitions (ofStaticKey required check entries declared) ↔
      (∀ value, entries.lookup declared.1 = some value → OnlyRepetitions (check declared.2 value)) ∧
      (declared.2.isRequired = true ∨ required = some declared.1 →
        (entries.lookup declared.1).isSome) := by
  unfold ofStaticKey
  cases hlookup : entries.lookup declared.1 with
  | some value =>
    have hnull := Document.isNull_eq_false.2 (hplain _ (Entries.mem_of_lookup hlookup))
    simp [Option.filter_some, hnull, underKey_iff]
  | none =>
    have hmissing : ¬ OnlyRepetitions [⟨[.key declared.1], .missingKey declared.1⟩] := by
      simp [OnlyRepetitions, Problem.category]
    dsimp only [Option.filter_none]
    by_cases hrequired : declared.2.isRequired = true ∨ required = some declared.1
    · rw [if_pos (by simpa using hrequired)]
      exact iff_of_false hmissing fun h => Bool.false_ne_true (h.2 hrequired)
    · rw [if_neg (by simpa using hrequired)]
      exact iff_of_true nil ⟨fun _ hset => (by cases hset), fun h => absurd h hrequired⟩

theorem otherEntries_iff {declared : List String} {check : Option (Document → List Finding)}
    {allowOtherKeys : Bool} {entries : Entries Document} :
    OnlyRepetitions (otherEntries declared check allowOtherKeys entries) ↔
      ∀ entry ∈ entries, entry.1 ∉ declared →
      (∀ inner ∈ check, OnlyRepetitions (inner entry.2)) ∧
      (check = none → allowOtherKeys = true) := by
  unfold otherEntries
  simp only [flatMap_iff, List.mem_filter, Bool.not_eq_true', List.contains_eq_mem,
    decide_eq_false_iff_not, and_imp]
  refine forall_congr' fun entry => imp_congr_right fun _ => imp_congr_right fun _ => ?_
  cases check with
  | none => cases allowOtherKeys <;> simp [unknownKey, OnlyRepetitions, Problem.category]
  | some inner => simp [underKey_iff]

theorem elements_iff {primaryKey : Option String} {check : Document → List Finding} {index : Nat}
    {seen : Seen} {values : List Document} :
    OnlyRepetitions (elements primaryKey check index seen values) ↔
      ∀ value ∈ values, OnlyRepetitions (check value) := by
  induction values generalizing index seen with
  | nil => simp [elements]
  | cons value rest ih =>
    have hrepetition : OnlyRepetitions (repetition primaryKey seen index value) :=
      fun _ => category_of_mem_repetition
    rw [elements, append_iff, append_iff, underIndex_iff, ih, List.forall_mem_cons]
    exact ⟨fun h => ⟨h.1.1, h.2⟩, fun h => ⟨⟨h.1, hrepetition⟩, h.2⟩⟩

end Validation.OnlyRepetitions

/-! ### Both verdicts -/

theorem TextConstraints.allows_iff {formats : Formats} {c : TextConstraints}
    {text : String} (hcase : c.convertToLowerCase ≠ some true)
    (hformat : ∀ format ∈ c.format, format = "ipv4" ∨ format = "ipv6")
    (hkept : ∀ name ∈ ["ipv4", "ipv6"], ∀ text, formats.check? name text =
      Formats.builtin.check? name text) :
    c.Allows formats text ↔
      ((∀ min ∈ c.minLength, min ≤ text.length) ∧ ∀ max ∈ c.maxLength, text.length ≤ max) ∧
      (∀ source ∈ c.pattern, ∃ compiled, Pattern.ofSource? source = some compiled ∧
        compiled.isMatch text = true) ∧
      (∀ values ∈ c.validValues, text ∈ values) ∧
      ∀ format ∈ c.format, format = "ipv4" ∨ format = "ipv6" →
        (Formats.builtin.check? format text).getD true = true := by
  have hignores : c.ignoresCase = false := ignoresCase_eq_false hcase
  have hsource : c.patternSource? = c.pattern := by
    simp [patternSource?, hignores]
  have hcheck : ∀ format ∈ c.format, formats.check? format text = some true ↔
      (Formats.builtin.check? format text).getD true = true := by
    intro format hset
    obtain ⟨test, htest⟩ : ∃ test, Formats.builtin.check? format text = some test := by
      rcases hformat format hset with rfl | rfl <;> exact ⟨_, rfl⟩
    rw [hkept format (by simpa using hformat format hset), htest, Option.getD_some,
      Option.some.injEq]
  constructor
  · intro h
    refine ⟨⟨h.minLength, h.maxLength⟩, fun source hset => h.pattern source (hsource ▸ hset),
      fun values hset => ?_, fun format hset _ => ?_⟩
    · simpa [hignores] using h.listed values hset
    · exact (hcheck format hset).1 (h.format format hset)
  · rintro ⟨⟨hmin, hmax⟩, hpattern, hlisted, hformats⟩
    refine ⟨hmin, hmax, fun source hset => hpattern source (hsource ▸ hset), fun format hset => ?_,
      fun values hset => ?_⟩
    · exact (hcheck format hset).2 (hformats format hset (hformat format hset))
    · simpa [hignores] using hlisted values hset

namespace Applicable

variable {rules : Rules} {depth : Nat} {node : Node} {identifying : Option String}
  {value : Document}

/-- Neither takes a value of another kind, so only values of the node's kind have to be compared. -/
theorem accepts_body_iff_of_admits (hdepth : depth ≤ rules.maxDepth) (hplain : value.Plain)
    (hadmits : node.kind.admits value = true →
      (accepts (body identifying node) value = true ↔
        OnlyRepetitions (node.findings rules depth identifying value))) :
    accepts (body identifying node) value = true ↔
      OnlyRepetitions (node.findings rules depth identifying value) := by
  cases hkind : node.kind.admits value with
  | true => exact hadmits hkind
  | false =>
    rw [accepts_wrongType hplain.ne_float hkind,
      Node.findings_wrongKind hdepth hplain.ne_null hkind]
    simp [OnlyRepetitions, here, Problem.category]

/-- The exported schema of a node takes a value exactly when the node finds nothing in it
but repeated primary keys. -/
theorem accepts_body_iff (h : Applicable rules depth node)
    (hsound : rules.patterns.Sound) (hportable : node.Portable)
    (hkept : ∀ name ∈ ["ipv4", "ipv6"], ∀ text, rules.formats.check? name text =
      Formats.builtin.check? name text) (hplain : value.Plain) :
    accepts (body identifying node) value = true ↔
      OnlyRepetitions (node.findings rules depth identifying value) := by
  induction h generalizing identifying value with
  | str hdepth hknown =>
    cases hportable with | str hcase hformat =>
    refine accepts_body_iff_of_admits hdepth hplain fun hkind => ?_
    obtain ⟨text, rfl⟩ := Kind.admits_str.1 hkind
    rw [accepts_str, ← TextConstraints.allows_iff hcase hformat hkept, Node.findings_str hdepth,
      OnlyRepetitions.here_iff fun _ => TextConstraints.category_of_mem_problems hknown,
        TextConstraints.problems_eq_nil_iff hknown hsound]
  | int hdepth =>
    refine accepts_body_iff_of_admits hdepth hplain fun hkind => ?_
    obtain ⟨i, rfl⟩ := Kind.admits_int.1 hkind
    cases hplain with | int hword =>
    rw [accepts_int, Node.findings_int hdepth, OnlyRepetitions.here_iff fun _ =>
      IntConstraints.category_of_mem_problems, IntConstraints.problems_eq_nil_iff]
    exact ⟨fun h => ⟨isSignedWord_iff.1 hword, h.1.1, h.1.2, h.2⟩, fun h =>
      ⟨⟨h.min, h.max⟩, h.listed⟩⟩
  | bool hdepth =>
    refine accepts_body_iff_of_admits hdepth hplain fun hkind => ?_
    obtain ⟨b, rfl⟩ := Kind.admits_bool.1 hkind
    rw [accepts_bool, Node.findings_bool hdepth, OnlyRepetitions.here_iff fun _ =>
      BoolConstraints.category_of_mem_problems, BoolConstraints.problems_eq_nil_iff]
  | @dict depth a keys dynamicKeys other hdepth _ _ ihkeys ihdynamic =>
    cases hportable with | dict hkeys hdynamicKeys =>
    refine accepts_body_iff_of_admits hdepth hplain fun hkind => ?_
    obtain ⟨entries, rfl⟩ := Kind.admits_dict.1 hkind
    cases hplain with | object hentries =>
    rw [accepts_dict, Node.findings_dict hdepth, OnlyRepetitions.append_iff,
      OnlyRepetitions.flatMap_iff, OnlyRepetitions.otherEntries_iff]
    simp only [OnlyRepetitions.ofStaticKey_iff fun entry hentry => (hentries entry hentry).ne_null,
      forall_and, and_assoc, Option.map_eq_none_iff]
    refine and_congr ?_ (and_congr Iff.rfl (and_congr ?_ Iff.rfl))
    · refine forall₂_congr fun declared hdeclared => forall₂_congr fun value hlookup => ?_
      exact ihkeys declared hdeclared (hkeys declared hdeclared)
        (hentries _ (Entries.mem_of_lookup hlookup))
    · refine forall₂_congr fun entry hentry => forall_congr' fun _ => ?_
      simp only [Option.mem_def, Option.map_eq_some_iff, forall_exists_index, and_imp,
        forall_apply_eq_imp_iff₂]
      exact forall₂_congr fun node hnode =>
        ihdynamic node hnode (hdynamicKeys node hnode) (hentries entry hentry)
  | @list depth a items c hdepth _ ih =>
    cases hportable with | list hitems =>
    refine accepts_body_iff_of_admits hdepth hplain fun hkind => ?_
    obtain ⟨values, rfl⟩ := Kind.admits_list.1 hkind
    cases hplain with | array hvalues =>
    rw [accepts_list, Node.findings_list hdepth, OnlyRepetitions.append_iff,
      OnlyRepetitions.elements_iff, OnlyRepetitions.here_iff fun _ =>
      ListConstraints.category_of_mem_problems, ListConstraints.problems_eq_nil_iff]
    have helements : (∀ item ∈ items, ∀ value ∈ values, accepts (body c.primaryKey item) value =
          true) ↔
        ∀ value ∈ values,
          OnlyRepetitions (ofElement rules (depth + 1) c.primaryKey items value) := by
      cases items with
      | none => simp [ofElement]
      | some item =>
        simp only [Option.mem_def, Option.some.injEq, forall_eq']
        refine forall₂_congr fun value hvalue => ?_
        have hnull := Document.isNull_eq_false.2 (hvalues value hvalue).ne_null
        rw [ih item rfl (hitems item rfl) (hvalues value hvalue), ofElement, element, hnull,
          if_neg Bool.false_ne_true]
    rw [helements]
    exact ⟨fun h => ⟨⟨h.2.1, h.2.2⟩, h.1⟩, fun h => ⟨h.2, h.1.minLength, h.1.maxLength⟩⟩

end Applicable

/-- The exported JSON Schema of a loaded schema agrees with validation: it accepts exactly the
instances in which validation finds nothing but repeated primary keys. -/
theorem Loaded.accepts_ofNode_iff {schema : Schema} {value : Document} (h : Loaded schema)
    (hkept : ∀ name ∈ ["ipv4", "ipv6"], ∀ text, schema.loader.formats.check? name text =
      Formats.builtin.check? name text) (hportable : schema.root.Portable) (hplain : value.Plain) :
    accepts (ofNode schema.root) value = true ↔
      ∀ finding ∈ schema.validate value, finding.problem.category = .duplicateKey := by
  rw [accepts_ofNode]
  exact h.applicable.accepts_body_iff h.patterns_sound hportable hkept hplain

/-- A list of hosts, which are identified by their addresses and may have
a name of small letters. -/
def addressedHosts : Document :=
  .object [("type", .string "list"), ("primary_key", .string "address"), ("items", .object [
    ("type", .string "dict"), ("keys", .object [
      ("address", .object [("type", .string "str"), ("format", .string "ipv4")]),
      ("name", .object [("type", .string "str"), ("pattern", .string "^[a-z]+$")])])])]

def repeatedHosts : Document :=
  .array [.object [("address", .string "10.0.0.1"), ("name", .string "a")],
    .object [("address", .string "10.0.0.1")]]

/-- The exported schema takes both hosts, though validation finds the repeated address. -/
theorem Loaded.accepts_repeatedHosts : ∃ schema, Loaded schema ∧
    (∀ name ∈ ["ipv4", "ipv6"], ∀ text, schema.loader.formats.check? name text =
      Formats.builtin.check? name text) ∧
    schema.root.Portable ∧ repeatedHosts.Plain ∧ schema.validate repeatedHosts ≠ [] ∧
    (accepts (ofNode schema.root) repeatedHosts = true ↔
      ∀ finding ∈ schema.validate repeatedHosts, finding.problem.category = .duplicateKey) ∧
    accepts (ofNode schema.root) repeatedHosts = true := by
  have hrun : (Loader.standard.load addressedHosts).toOption.any (fun schema =>
      schema.root.isPortable && accepts (ofNode schema.root) repeatedHosts &&
        !(schema.validate repeatedHosts).isEmpty) = true := by
    decide +kernel
  obtain ⟨schema, hload, htest⟩ := exists_ok_of_any hrun
  rw [Bool.and_eq_true, Bool.and_eq_true, Bool.not_eq_true', ← Bool.not_eq_true,
    List.isEmpty_iff] at htest
  obtain ⟨⟨hportable, haccepts⟩, hfound⟩ := htest
  have hloaded : Loaded schema := .load hload
  have hkept : ∀ name ∈ ["ipv4", "ipv6"], ∀ text, schema.loader.formats.check? name text =
      Formats.builtin.check? name text := by
    rw [(Loader.of_load hload).1]
    exact fun _ _ _ => rfl
  have hplain : repeatedHosts.Plain := by
    refine .array fun element helement => ?_
    simp only [List.mem_cons, List.not_mem_nil, or_false] at helement
    rcases helement with rfl | rfl <;> refine .object fun entry hentry => ?_ <;>
      simp only [List.mem_cons, List.not_mem_nil, or_false] at hentry
    · rcases hentry with rfl | rfl <;> exact .string
    · subst hentry
      exact .string
  have hroot := Node.Portable.of_isPortable hportable
  exact ⟨schema, hloaded, hkept, hroot, hplain, hfound,
    hloaded.accepts_ofNode_iff hkept hroot hplain, haccepts⟩

end DataSchema
