import DataSchema.Proofs.Conversion.Notes
import DataSchema.Proofs.Document.Entries
import DataSchema.Proofs.Schema.WellFormed
import DataSchema.Proofs.Text.LowerCase
import DataSchema.Proofs.Validation.Conformance

/-!
# What conversion does to a valid instance

Nothing in a valid instance is of a wrong kind, so conversion only lower-cases the texts whose
node ignores case. Lower-casing never makes a text too short and never takes it out of the
valid values. It can make a text too long, break a pattern or a format, and make primary keys
equal that differed by case. `LoweringSafe` says that none of this happens, and the converted
instance is valid exactly then.
-/

namespace DataSchema

open Validation Conversion

/-! ### Lower-casing by schema -/

namespace Node

mutual

/-- The instance with every text in lower case whose node ignores case. -/
def lowered (node : Node) : Document → Document
  | .string text => match node with
    | .str _ c => .string (if c.ignoresCase then Text.lowercase text else text)
    | _ => .string text
  | .array elements => match node with
    | .list _ (some item) _ => .array (loweredElements item elements)
    | _ => .array elements
  | .object entries => .object (loweredEntries node entries)
  | value => value

def loweredElements (item : Node) : List Document → List Document
  | [] => []
  | value :: rest => lowered item value :: loweredElements item rest

def loweredEntries (node : Node) : List (String × Document) → List (String × Document)
  | [] => []
  | (key, value) :: rest =>
    (key, match node.child? key with
      | some child => lowered child value
      | none => value) :: loweredEntries node rest

end

def loweredAt (node : Node) (key : String) (value : Document) : Document :=
  match node.child? key with
  | some child => child.lowered value
  | none => value

theorem loweredElements_eq_map (item : Node) (values : List Document) :
    loweredElements item values = values.map item.lowered := by
  induction values with
  | nil => rfl
  | cons value rest ih => rw [loweredElements, ih, List.map_cons]

theorem lowered_object (node : Node) (entries : Entries Document) :
    node.lowered (.object entries) = .object (entries.map fun entry =>
      (entry.1, node.loweredAt entry.1 entry.2)) := by
  rw [lowered]
  congr 1
  induction entries with
  | nil => rfl
  | cons entry rest ih =>
    rw [loweredEntries, ih]
    rfl

theorem lowered_array {a : Attributes} {item : Node} {c : ListConstraints}
    (values : List Document) :
    (list a (some item) c).lowered (.array values) = .array (values.map item.lowered) := by
  rw [lowered, loweredElements_eq_map]

/-- A list without a schema for its elements, and an array where no list belongs, are left alone. -/
theorem lowered_array_of_items?_eq_none {node : Node} (hitems : node.items? = none)
    (values : List Document) :
    node.lowered (.array values) = .array values := by
  rw [lowered.eq_def]
  cases node with
  | list a items c =>
    cases hitems
    rfl
  | _ => rfl

@[simp] theorem lowered_null (node : Node) : node.lowered .null = .null := by
  rw [lowered.eq_def]

theorem lowered_eq_null {node : Node} {value : Document} :
    node.lowered value = .null ↔ value = .null := by
  rw [lowered.eq_def]
  cases value <;> simp only [reduceCtorEq] <;> split <;> simp

theorem loweredAt_eq_null {node : Node} {key : String} {value : Document} :
    node.loweredAt key value = .null ↔ value = .null := by
  unfold loweredAt
  split
  · exact lowered_eq_null
  · rfl

end Node

/-! ### Conversion only lower-cases -/

theorem Node.convert_string {maxDepth depth : Nat} (hdepth : depth ≤ maxDepth) {a : Attributes}
    {c : TextConstraints} (text : String) :
    ((str a c).convert maxDepth depth (.string text)).1 =
      .string (if c.ignoresCase then Text.lowercase text else text) := by
  rw [convert.eq_def]
  have hkind : convertKind (str a c) (.string text) = (.string text, []) := rfl
  simp only [if_neg (Nat.not_lt.2 hdepth), convertScalar, hkind, lowerCase]
  cases hcase : c.ignoresCase with
  | false => rfl
  | true => by_cases hsame : Text.lowercase text = text <;> simp [hsame]

/-- Conversion of a conforming instance lower-cases and does nothing else. -/
theorem Applicable.convert_eq_lowered {rules : Rules} {depth : Nat} {node : Node}
    {formats : Formats} {required : Option String} {value : Document}
    (h : Applicable rules depth node) (hnode : node.WellFormed) (hvalue : value.WellFormed)
    (hconforms : Conforms formats node required value) :
    (node.convert rules.maxDepth depth value).1 = node.lowered value := by
  induction value generalizing node depth required with
  | null => rw [Node.convert.eq_def, Node.lowered_null]
  | bool =>
    cases hconforms with
    | bool =>
      rw [Node.convert.eq_def, Node.lowered.eq_def]
      simp only [if_neg (Nat.not_lt.2 h.le_maxDepth)]
      rfl
  | int =>
    cases hconforms with
    | int =>
      rw [Node.convert.eq_def, Node.lowered.eq_def]
      simp only [if_neg (Nat.not_lt.2 h.le_maxDepth)]
      rfl
  | float => cases hconforms
  | string text =>
    cases hconforms with
    | str => rw [Node.convert_string h.le_maxDepth, Node.lowered.eq_def]
  | array values ih =>
    have helements := Document.wellFormed_array.1 hvalue
    cases hnode with
    | list hitem =>
      rename_i a items c
      cases hconforms with
      | list _ _ heach _ =>
        cases items with
        | none =>
          rw [Node.convert.eq_def, Node.lowered_array_of_items?_eq_none rfl]
          simp only [if_neg (Nat.not_lt.2 h.le_maxDepth)]
        | some item =>
          rw [Node.convert_array_eq h.le_maxDepth, Node.lowered_array, Document.array.injEq,
            List.map_inj_left]
          intro value hmem
          exact ih value hmem (h.items? rfl) (hitem item rfl) (helements value hmem)
            (heach item rfl value hmem)
    | _ => cases hconforms
  | object entries ih =>
    obtain ⟨hentries, hvalues⟩ := Document.wellFormed_object.1 hvalue
    have hgood : ∀ {key child}, node.child? key = some child → child.WellFormed :=
      fun hchild => hnode.child? hchild
    cases hnode with
    | @dict a keys dynamicKeys other hkeys =>
      obtain ⟨hconform, -, -⟩ := (conforms_object_iff hkeys hentries).1 hconforms
      rw [Node.convert_object_eq h.le_maxDepth, Node.lowered_object, Document.object.injEq,
        List.map_inj_left]
      intro entry hentry
      unfold Node.convertAt Node.loweredAt
      cases hchild : (Node.dict a keys dynamicKeys other).child? entry.1 with
      | none => rfl
      | some child =>
        dsimp only
        rw [ih entry hentry (h.child? hchild) (hgood hchild) (hvalues entry hentry)
          (hconform entry hentry child hchild)]
    | _ => cases hconforms

/-! ### When lower-casing keeps an instance valid -/

/-- The checks of a text that its lower case may fail although the text passes them. -/
structure TextConstraints.AllowsLowered (formats : Formats) (c : TextConstraints) (text : String) :
    Prop where
  maxLength : ∀ max ∈ c.maxLength, (Text.lowercase text).length ≤ max
  pattern : ∀ source ∈ c.patternSource?, ∃ compiled, Pattern.ofSource? source = some compiled ∧
    compiled.isMatch (Text.lowercase text) = true
  format : ∀ format ∈ c.format, formats.check? format (Text.lowercase text) = some true

/-- Every text that conversion lower-cases still passes those checks, and no two elements of a keyed
list get the same primary key. -/
inductive LoweringSafe (formats : Formats) : Node → Document → Prop
  | null {node} : LoweringSafe formats node .null
  | str {a c text} : (c.ignoresCase = true → c.AllowsLowered formats text) →
      LoweringSafe formats (.str a c) (.string text)
  | int {a c value} : LoweringSafe formats (.int a c) (.int value)
  | bool {a c value} : LoweringSafe formats (.bool a c) (.bool value)
  | dict {a keys dynamicKeys other entries} :
      (∀ entry ∈ entries, ∀ child ∈ (Node.dict a keys dynamicKeys other).child? entry.1,
        LoweringSafe formats child entry.2) →
      LoweringSafe formats (.dict a keys dynamicKeys other) (.object entries)
  | list {a items values} {c : ListConstraints}
      (each : ∀ item ∈ items, ∀ value ∈ values, LoweringSafe formats item value)
      (distinct : ∀ item ∈ items, (identities c.primaryKey (values.map item.lowered)).Nodup) :
      LoweringSafe formats (.list a items c) (.array values)

/-- The lower bound of the length and the valid values never suffer, because no text gets shorter
and lower-casing twice changes nothing. -/
theorem TextConstraints.Allows.lowercase_iff {formats : Formats} {c : TextConstraints}
    {text : String} (h : c.Allows formats text) (hcase : c.ignoresCase = true) :
    c.Allows formats (Text.lowercase text) ↔ c.AllowsLowered formats text := by
  constructor
  · intro hlowered
    exact ⟨hlowered.maxLength, hlowered.pattern, hlowered.format⟩
  · intro hlowered
    refine ⟨fun min hmin => ?_, hlowered.maxLength, hlowered.pattern, hlowered.format,
      fun values hvalues => ?_⟩
    · exact Nat.le_trans (h.minLength min hmin) (Text.length_le_length_lowercase text)
    · have hlisted := h.listed values hvalues
      rw [if_pos hcase] at hlisted ⊢
      rw [Text.lowercase_lowercase]
      exact hlisted

namespace Conforms

variable {formats : Formats} {node : Node} {required : Option String} {value : Document}

theorem lowered_array_iff {a : Attributes} {item : Node} {c : ListConstraints}
    {values : List Document} (h : Conforms formats (.list a (some item) c) required (.array values))
    (hbelow : ∀ value ∈ values,
      (Conforms formats item c.primaryKey (item.lowered value) ↔ LoweringSafe formats item value)) :
    Conforms formats (.list a (some item) c) required (.array (values.map item.lowered)) ↔
      LoweringSafe formats (.list a (some item) c) (.array values) := by
  constructor
  · rintro (_ | _ | _ | _ | _ | ⟨-, -, heach, hdistinct⟩)
    refine .list (fun inner hinner value hmem => ?_) (fun inner hinner => ?_)
    · cases hinner
      exact (hbelow value hmem).1 (heach item rfl _ (List.mem_map_of_mem hmem))
    · cases hinner
      exact hdistinct
  · rintro (_ | _ | _ | _ | _ | ⟨hsafe, hdistinct⟩)
    cases h with
    | list hlength hnonNull =>
      refine .list ?_ (fun _ => ?_) (fun inner hinner => ?_) (hdistinct item rfl)
      · rw [List.length_map]
        exact hlength
      · rw [List.forall_mem_map]
        intro value hmem hnull
        exact hnonNull rfl value hmem (Node.lowered_eq_null.1 hnull)
      · cases hinner
        rw [List.forall_mem_map]
        intro value hmem
        exact (hbelow value hmem).2 (hsafe item rfl value hmem)

theorem lowered_object_iff {a : Attributes} {keys : Option (List (String × Node))}
    {dynamicKeys : Option Node} {other : Option Bool} {entries : Entries Document}
    (hkeys : ((keys.getD []).map Prod.fst).Nodup) (hentries : (entries.map Prod.fst).Nodup)
    (h : Conforms formats (.dict a keys dynamicKeys other) required (.object entries))
    (hbelow : ∀ entry ∈ entries, ∀ child ∈ (Node.dict a keys dynamicKeys other).child? entry.1,
      (Conforms formats child none (child.lowered entry.2) ↔ LoweringSafe formats child entry.2)) :
    Conforms formats (.dict a keys dynamicKeys other) required
      ((Node.dict a keys dynamicKeys other).lowered (.object entries)) ↔
      LoweringSafe formats (.dict a keys dynamicKeys other) (.object entries) := by
  obtain ⟨-, habsent, hclosed⟩ := (conforms_object_iff hkeys hentries).1 h
  have hsame : ∀ {key child value}, (Node.dict a keys dynamicKeys other).child? key = some child →
      (Node.dict a keys dynamicKeys other).loweredAt key value = child.lowered value := by
    intro key child value hchild
    rw [Node.loweredAt, hchild]
  rw [Node.lowered_object, conforms_object_iff hkeys (by rwa [List.map_map])]
  constructor
  · rintro ⟨hlowered, -, -⟩
    refine .dict fun entry hentry child hchild => (hbelow entry hentry child hchild).1 ?_
    have hconforms := hlowered _ (List.mem_map_of_mem hentry) child hchild
    rwa [hsame hchild] at hconforms
  · rintro (_ | _ | _ | _ | ⟨hsafe⟩ | _)
    refine ⟨?_, fun key child hmem hunset => habsent key child hmem fun value hlookup => ?_, ?_⟩
    · rw [List.forall_mem_map]
      intro entry hentry child hchild
      rw [hsame hchild]
      exact (hbelow entry hentry child hchild).2 (hsafe entry hentry child hchild)
    · have hnull : (Node.dict a keys dynamicKeys other).loweredAt key value = .null := by
        apply hunset
        rw [Entries.lookup_map (Node.dict a keys dynamicKeys other).loweredAt, hlookup,
          Option.map_some]
      exact Node.loweredAt_eq_null.1 hnull
    · intro key value hmem
      obtain ⟨entry, hentry, heq⟩ := List.mem_map.1 hmem
      cases heq
      exact hclosed entry.1 entry.2 hentry

theorem lowered_iff (hnode : node.WellFormed) (hvalue : value.WellFormed)
    (h : Conforms formats node required value) :
    Conforms formats node required (node.lowered value) ↔ LoweringSafe formats node value := by
  induction value generalizing node required with
  | null =>
    rw [Node.lowered_null]
    exact iff_of_true .null .null
  | bool =>
    cases h with
    | bool hlisted => exact iff_of_true (by rw [Node.lowered.eq_def]; exact .bool hlisted) .bool
  | int =>
    cases h with
    | int hallows => exact iff_of_true (by rw [Node.lowered.eq_def]; exact .int hallows) .int
  | float => cases h
  | string text =>
    cases h with
    | str hallows =>
      rename_i a c
      rw [Node.lowered.eq_def]
      dsimp only
      cases hcase : c.ignoresCase with
      | false => exact iff_of_true (.str hallows) (.str fun htrue => absurd htrue (by simp [hcase]))
      | true =>
        rw [if_pos rfl]
        constructor
        · rintro (_ | hlowered)
          exact .str fun _ => (hallows.lowercase_iff hcase).1 hlowered
        · rintro (_ | hsafe)
          exact .str ((hallows.lowercase_iff hcase).2 (hsafe hcase))
  | array values ih =>
    have helements := Document.wellFormed_array.1 hvalue
    cases hnode with
    | @list a items c hitem =>
      cases items with
      | none =>
        rw [Node.lowered_array_of_items?_eq_none rfl]
        exact iff_of_true h (.list (by simp) (by simp))
      | some item =>
        rw [Node.lowered_array]
        refine h.lowered_array_iff fun value hmem => ?_
        cases h with
        | list _ _ heach =>
          exact ih value hmem (hitem item rfl) (helements value hmem) (heach item rfl value hmem)
    | _ => cases h
  | object entries ih =>
    obtain ⟨hentries, hvalues⟩ := Document.wellFormed_object.1 hvalue
    have hgood : ∀ {key child}, node.child? key = some child → child.WellFormed :=
      fun hchild => hnode.child? hchild
    cases hnode with
    | dict hkeys =>
      obtain ⟨hconform, -, -⟩ := (conforms_object_iff hkeys hentries).1 h
      refine h.lowered_object_iff hkeys hentries fun entry hentry child hchild => ?_
      exact ih entry hentry (hgood hchild) (hvalues entry hentry)
        (hconform entry hentry child hchild)
    | _ => cases h

end Conforms

/-- Conversion of a valid instance only lower-cases, and keeps the instance valid
exactly when that is safe. -/
theorem WellLoaded.validate_convert_eq_nil_iff {schema : Schema} (h : WellLoaded schema)
    {value : Document} (hvalue : value.WellFormed) (hvalid : schema.validate value = []) :
    (schema.convert value).1 = schema.root.lowered value ∧
      (schema.validate (schema.convert value).1 = [] ↔
        LoweringSafe schema.loader.formats schema.root value) := by
  have happlicable := h.loaded.applicable
  have hiff : ∀ value, schema.validate value = [] ↔
      Conforms schema.loader.formats schema.root none value := fun value =>
    happlicable.findings_eq_nil_iff h.loaded.patterns_sound
  have hconforms := (hiff value).1 hvalid
  have hlowered : (schema.convert value).1 = schema.root.lowered value :=
    happlicable.convert_eq_lowered h.root_wellFormed hvalue hconforms
  refine ⟨hlowered, ?_⟩
  rw [hlowered, hiff]
  exact hconforms.lowered_iff h.root_wellFormed hvalue

/-- A list of dicts that are identified by texts without regard to case. -/
def caselessList : Document :=
  .object [("type", .string "list"), ("primary_key", .string "id"), ("items", .object [
    ("type", .string "dict"), ("keys", .object [
      ("id", .object [("type", .string "str"), ("convert_to_lower_case", .bool true)])])])]

def identified (texts : List String) : Document :=
  .array (texts.map fun text => .object [("id", .string text)])

theorem identified_wellFormed (texts : List String) : (identified texts).WellFormed := by
  rw [identified, Document.wellFormed_array, List.forall_mem_map]
  intro text _
  simp [Document.WellFormed, Document.WellFormedEntries]

theorem caselessList_wellFormed : caselessList.WellFormed := by
  simp [caselessList, Document.WellFormed, Document.WellFormedEntries]

theorem exists_of_caselessList {test : Schema → Bool}
    (h : (Loader.standard.load caselessList).toOption.any test = true) :
    ∃ schema, WellLoaded schema ∧ test schema = true := by
  obtain ⟨schema, hload, htest⟩ := exists_ok_of_any h
  exact ⟨schema, .of_standard caselessList_wellFormed hload, htest⟩

/-- Identities that differ by more than case stay different. -/
theorem WellLoaded.loweringSafe_identified :
    ∃ schema, WellLoaded schema ∧ schema.validate (identified ["A", "B"]) = [] ∧
    (schema.convert (identified ["A", "B"])).1 = schema.root.lowered (identified ["A", "B"]) ∧
    LoweringSafe schema.loader.formats schema.root (identified ["A", "B"]) := by
  have hrun : (Loader.standard.load caselessList).toOption.any (fun schema =>
      (schema.validate (identified ["A", "B"])).isEmpty &&
      (schema.validate (schema.convert (identified ["A", "B"])).1).isEmpty) = true := by
    decide +kernel
  obtain ⟨schema, hloaded, htest⟩ := exists_of_caselessList hrun
  simp only [Bool.and_eq_true, List.isEmpty_iff] at htest
  obtain ⟨hlowered, hiff⟩ := hloaded.validate_convert_eq_nil_iff (identified_wellFormed _) htest.1
  exact ⟨schema, hloaded, htest.1, hlowered, hiff.1 htest.2⟩

/-- Conversion makes identities equal that differ by case alone, so a valid list becomes invalid. -/
theorem WellLoaded.exists_validate_convert_ne_nil :
    ∃ schema, WellLoaded schema ∧ schema.validate (identified ["A", "a"]) = [] ∧
    schema.validate (schema.convert (identified ["A", "a"])).1 ≠ [] := by
  have hrun : (Loader.standard.load caselessList).toOption.any (fun schema =>
      (schema.validate (identified ["A", "a"])).isEmpty &&
      !(schema.validate (schema.convert (identified ["A", "a"])).1).isEmpty) = true := by
    decide +kernel
  obtain ⟨schema, hloaded, htest⟩ := exists_of_caselessList hrun
  simp only [Bool.and_eq_true, Bool.not_eq_true', List.isEmpty_iff,
    List.isEmpty_eq_false_iff] at htest
  exact ⟨schema, hloaded, htest⟩

end DataSchema
