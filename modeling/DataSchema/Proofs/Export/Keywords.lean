import DataSchema.Export.JsonSchema
import DataSchema.Proofs.Document.Entries

/-!
# What exported schemas accept

Equations for `JsonSchema.accepts` on the documents that `JsonSchema.body` writes, one for each kind
of node. They say in terms of the node what the keywords together ask of a value of the right type;
the proofs about exported schemas start from these and do not open the recursion over keywords.
-/

namespace DataSchema

namespace JsonSchema

open DataSchema.Field

variable {declared : List String} {value : Document} {a : Attributes} {identifying : Option String}

/-! ### One keyword -/

theorem keywordsHold_cons (keyword : String) (argument : Document) (rest : Entries Document) :
    keywordsHold declared ((keyword, argument) :: rest) value =
      ((if keyword == "properties" then
          match argument with
          | .object schemas => propertiesHold schemas value
          | _ => true
        else if keyword == "additionalProperties" then
          match value with
          | .object entries =>
            entries.all fun entry => declared.contains entry.1 || accepts argument entry.2
          | _ => true
        else if keyword == "items" then
          match value with
          | .array elements => elements.all fun element => accepts argument element
          | _ => true
        else simpleHolds keyword argument value) && keywordsHold declared rest value) :=
  keywordsHold.eq_def declared ((keyword, argument) :: rest) value

theorem keywordsHold_append (before after : Entries Document) :
    keywordsHold declared (before ++ after) value =
      (keywordsHold declared before value && keywordsHold declared after value) := by
  induction before with
  | nil => rfl
  | cons entry rest ih =>
    obtain ⟨keyword, argument⟩ := entry
    rw [List.cons_append, keywordsHold_cons, keywordsHold_cons, ih, Bool.and_assoc]

theorem keywordsHold_properties (schemas entries : Entries Document) :
    keywordsHold declared [("properties", .object schemas)] (.object entries) =
      propertiesHold schemas (.object entries) := by
  rw [keywordsHold_cons, if_pos (beq_self_eq_true "properties")]
  exact Bool.and_true _

theorem keywordsHold_additionalProperties (schema : Document) (entries : Entries Document) :
    keywordsHold declared [("additionalProperties", schema)] (.object entries) =
      entries.all fun entry => declared.contains entry.1 || accepts schema entry.2 := by
  rw [keywordsHold_cons, if_neg (by decide), if_pos (beq_self_eq_true "additionalProperties")]
  exact Bool.and_true _

theorem keywordsHold_items (schema : Document) (elements : List Document) :
    keywordsHold declared [("items", schema)] (.array elements) = elements.all fun element =>
      accepts schema element := by
  rw [keywordsHold_cons, if_neg (by decide), if_neg (by decide), if_pos (beq_self_eq_true "items")]
  exact Bool.and_true _

def structural : List String := ["properties", "additionalProperties", "items"]

theorem keywordsHold_simple {keyword : String} (hsimple : keyword ∉ structural)
    (argument : Document) :
    keywordsHold declared [(keyword, argument)] value = simpleHolds keyword argument value := by
  simp only [structural, List.mem_cons, List.not_mem_nil, or_false, not_or] at hsimple
  obtain ⟨hproperties, hadditional, hitems⟩ := hsimple
  rw [keywordsHold_cons, if_neg (mt beq_iff_eq.1 hproperties), if_neg (mt beq_iff_eq.1 hadditional),
    if_neg (mt beq_iff_eq.1 hitems)]
  exact Bool.and_true _

theorem keywordsHold_entry {α : Type} {keyword : String} {write : α → Document}
    {argument : Option α} (hsimple : keyword ∉ structural) :
    keywordsHold declared (entry keyword write argument) value = true ↔
      ∀ a ∈ argument, simpleHolds keyword (write a) value = true := by
  cases argument with
  | none => exact iff_of_true rfl nofun
  | some a =>
    simp only [entry, keywordsHold_simple hsimple, Option.mem_def, Option.some.injEq, forall_eq']

/-! ### Keywords without schemas -/

theorem simpleHolds_type (type : String) :
    simpleHolds "type" (.string type) value = typeHolds type value := rfl

theorem simpleHolds_enum {α : Type} (write : α → Document) (values : List α) :
    simpleHolds "enum" (ofList write values) value = values.any fun listed =>
      equals (write listed) value :=
  List.any_map

theorem simpleHolds_minimum (bound : Document) :
    simpleHolds "minimum" bound value = boundHolds (fun a b => a ≥ b) value bound := rfl

theorem simpleHolds_maximum (bound : Document) :
    simpleHolds "maximum" bound value = boundHolds (fun a b => a ≤ b) value bound := rfl

theorem simpleHolds_minLength (bound : Document) :
    simpleHolds "minLength" bound value =
      lengthHolds (fun a b => a ≥ b) (textLength? value) bound := rfl

theorem simpleHolds_maxLength (bound : Document) :
    simpleHolds "maxLength" bound value =
      lengthHolds (fun a b => a ≤ b) (textLength? value) bound := rfl

theorem simpleHolds_minItems (bound : Document) :
    simpleHolds "minItems" bound value = lengthHolds (fun a b => a ≥ b) (itemCount? value) bound :=
  rfl

theorem simpleHolds_maxItems (bound : Document) :
    simpleHolds "maxItems" bound value = lengthHolds (fun a b => a ≤ b) (itemCount? value) bound :=
  rfl

theorem simpleHolds_pattern (source : String) :
    simpleHolds "pattern" (.string source) value = patternHolds source value := rfl

theorem simpleHolds_format (format : String) :
    simpleHolds "format" (.string format) value = formatHolds format value := rfl

theorem simpleHolds_required (keys : List String) (entries : Entries Document) :
    simpleHolds "required" (ofList .string keys) (.object entries) = keys.all fun key =>
      (entries.lookup key).isSome :=
  List.all_map

theorem keywordsHold_annotations : keywordsHold declared (annotations a) value = true := by
  simp (disch := decide) only [annotations, keywordsHold_append, Bool.and_eq_true,
    keywordsHold_entry]
  exact ⟨⟨fun _ _ => rfl, fun _ _ => rfl⟩, fun _ _ => rfl⟩

/-! ### The documents of nodes -/

theorem lookup_entry {α : Type} {keyword key : String} (hne : keyword ≠ key) (write : α → Document)
    (argument : Option α) :
    (entry keyword write argument).lookup key = none := by
  cases argument with
  | none => rfl
  | some a => rw [entry, List.lookup_cons, beq_eq_false_iff_ne.2 hne.symm, List.lookup_nil]

/-- Only what stands after the type says something about a value of this type. -/
theorem accepts_typed (type : String) (rest : Entries Document) :
    accepts (.object (annotations a ++ ("type", .string type) :: rest)) value =
      (typeHolds type value && keywordsHold (propertyNames rest) rest value) := by
  have hnames : propertyNames (annotations a ++ ("type", .string type) :: rest) =
      propertyNames rest := by
    unfold propertyNames annotations
    simp only [List.lookup_append, lookup_entry (show "title" ≠ "properties" by decide),
      lookup_entry (show "description" ≠ "properties" by decide),
      lookup_entry (show "default" ≠ "properties" by decide), List.lookup_cons,
      show ("properties" == "type") = false by decide, Option.none_or]
  rw [accepts, hnames, keywordsHold_append, keywordsHold_annotations, Bool.true_and,
    ← List.singleton_append, keywordsHold_append, keywordsHold_simple (by decide), simpleHolds_type]

theorem body_dict {keys : Option (List (String × Node))} {dynamicKeys : Option Node}
    {other : Option Bool} :
    body identifying (.dict a keys dynamicKeys other) =
      .object (annotations a ++ ("type", .string "object")
      :: (nonemptyEntry "properties" (.object (properties (keys.getD []))) (keys.getD []).isEmpty
        ++ (nonemptyEntry "required" (ofList .string (requiredKeys identifying (keys.getD [])))
            (requiredKeys identifying (keys.getD [])).isEmpty
          ++ [("additionalProperties",
            dynamicKeys.elim (.bool (other.getD false)) (body none))]))) := by
  rw [body.eq_def]
  cases keys <;> cases dynamicKeys <;>
    simp only [Option.getD, Option.elim, List.append_assoc] <;> rfl

theorem body_list {items : Option Node} {c : ListConstraints} :
    body identifying (.list a items c) = .object (annotations a ++ ("type", .string "array")
      :: (entry "items" (body c.primaryKey) items ++ entry "minItems" ofLength c.minLength
        ++ entry "maxItems" ofLength c.maxLength)) := by
  rw [body.eq_def]
  cases items <;> rfl

theorem exists_body_eq (node : Node) : ∃ type rest, body identifying node =
    .object (annotations node.attributes ++ ("type", .string type) :: rest) := by
  cases node with
  | dict => exact ⟨_, _, body_dict⟩
  | list => exact ⟨_, _, body_list⟩
  | _ => exact ⟨_, _, rfl⟩

theorem accepts_ofNode (node : Node) :
    accepts (ofNode node) value = accepts (body none node) value := by
  obtain ⟨type, rest, hbody⟩ := @exists_body_eq none node
  have hnames (entries : Entries Document) :
      propertyNames (("$schema", .string dialect) :: entries) = propertyNames entries := by
    rw [propertyNames, List.lookup_cons, show ("properties" == "$schema") = false by decide,
      propertyNames]
  rw [ofNode, hbody]
  generalize annotations node.attributes ++ ("type", .string type) :: rest = entries
  dsimp only
  rw [accepts, hnames, ← List.singleton_append, keywordsHold_append,
    keywordsHold_simple (by decide), accepts]
  rfl

/-! ### Values of the right and of another type -/

/-- A value of another type is not accepted. Floats are left out: without fractional part
they are integers there. -/
theorem accepts_wrongType {node : Node} (hfloat : ∀ x, value ≠ .float x)
    (hkind : node.kind.admits value = false) :
    accepts (body identifying node) value = false := by
  cases node <;> simp only [body, body_dict, body_list, accepts_typed, Bool.and_eq_false_iff] <;>
    left <;> cases value <;>
    first | rfl | exact absurd rfl (hfloat _) | cases hkind

theorem accepts_str {c : TextConstraints} (text : String) :
    accepts (body identifying (.str a c)) (.string text) = true ↔
      ((∀ min ∈ c.minLength, min ≤ text.length) ∧ ∀ max ∈ c.maxLength, text.length ≤ max) ∧
      (∀ source ∈ c.pattern, ∃ compiled, Pattern.ofSource? source = some compiled ∧
        compiled.isMatch text = true) ∧
      (∀ values ∈ c.validValues, text ∈ values) ∧
      ∀ format ∈ c.format, format = "ipv4" ∨ format = "ipv6" →
        (Formats.builtin.check? format text).getD true = true := by
  have hformat (declared : List String) : keywordsHold declared (formatEntry c.format)
      (.string text) = true ↔
      ∀ format ∈ c.format, format = "ipv4" ∨ format = "ipv6" →
        (Formats.builtin.check? format text).getD true = true := by
    cases c.format with
    | none => exact iff_of_true rfl nofun
    | some format =>
      by_cases hdraft : format = "ipv4" ∨ format = "ipv6"
      · rw [formatEntry, if_pos hdraft, keywordsHold_simple (by decide), simpleHolds_format]
        simp [formatHolds, hdraft]
      · rw [formatEntry, if_neg hdraft]
        simp [keywordsHold, hdraft]
  have htype : typeHolds "string" (.string text) = true := rfl
  simp (disch := decide) only [body, accepts_typed, htype, Bool.true_and, keywordsHold_append,
    Bool.and_eq_true, keywordsHold_entry, hformat, simpleHolds_minLength, simpleHolds_maxLength,
    simpleHolds_pattern, simpleHolds_enum]
  simp [lengthHolds, textLength?, ofLength, patternHolds, equals, number?, and_assoc,
    Option.any_eq_true]

theorem accepts_int {c : IntConstraints} (i : Int) :
    accepts (body identifying (.int a c)) (.int i) = true ↔
      ((∀ min ∈ c.min, min ≤ i) ∧ ∀ max ∈ c.max, i ≤ max) ∧
      ∀ values ∈ c.validValues, i ∈ values := by
  have htype : typeHolds "integer" (.int i) = true := by
    change (i % ((1 : Nat) : Int) == 0) = true
    simp
  simp (disch := decide) only [body, accepts_typed, htype, Bool.true_and, keywordsHold_append,
    Bool.and_eq_true, keywordsHold_entry, simpleHolds_minimum, simpleHolds_maximum,
    simpleHolds_enum]
  simp [boundHolds, equals, number?]

theorem accepts_bool {c : BoolConstraints} (b : Bool) :
    accepts (body identifying (.bool a c)) (.bool b) = true ↔
      ∀ values ∈ c.validValues, b ∈ values := by
  have htype : typeHolds "boolean" (.bool b) = true := rfl
  simp (disch := decide) only [body, accepts_typed, htype, Bool.true_and, keywordsHold_entry,
    simpleHolds_enum]
  simp [equals, number?]

/-! ### Objects and arrays -/

theorem map_fst_properties (keys : List (String × Node)) :
    (properties keys).map Prod.fst = keys.map Prod.fst := by
  induction keys with
  | nil => rfl
  | cons property rest ih => rw [properties, List.map_cons, List.map_cons, ih]

theorem propertiesHold_properties (entries : Entries Document) (keys : List (String × Node)) :
    propertiesHold (properties keys) (.object entries) = true ↔ ∀ property ∈ keys, ∀ value,
      entries.lookup property.1 = some value → accepts (body none property.2) value = true := by
  induction keys with
  | nil => simp [properties, propertiesHold]
  | cons property rest ih =>
    rw [properties, propertiesHold.eq_def, List.forall_mem_cons, ← ih]
    simp only [Document.get?, Bool.and_eq_true]
    cases entries.lookup property.1 <;> simp

theorem properties_iff (entries : Entries Document) (keys : List (String × Node)) :
    keywordsHold declared (nonemptyEntry "properties" (.object (properties keys)) keys.isEmpty)
      (.object entries) = true ↔
      ∀ property ∈ keys, ∀ value, entries.lookup property.1 = some value →
        accepts (body none property.2) value = true := by
  cases keys with
  | nil => exact iff_of_true rfl (List.forall_mem_nil _)
  | cons property rest =>
    rw [← propertiesHold_properties, nonemptyEntry, List.isEmpty_cons, if_neg Bool.false_ne_true,
      keywordsHold_properties]

theorem required_iff (entries : Entries Document) (keys : List (String × Node)) :
    keywordsHold declared (nonemptyEntry "required" (ofList .string (requiredKeys identifying keys))
        (requiredKeys identifying keys).isEmpty) (.object entries) = true ↔
      ∀ property ∈ keys, property.2.isRequired = true ∨ identifying = some property.1 →
        (entries.lookup property.1).isSome := by
  have hall : (∀ property ∈ keys, property.2.isRequired = true ∨ identifying = some property.1 →
      (entries.lookup property.1).isSome) ↔
        ∀ key ∈ requiredKeys identifying keys, (entries.lookup key).isSome := by
    simp only [requiredKeys, List.forall_mem_map, List.mem_filter, Bool.or_eq_true,
      beq_iff_eq, and_imp]
  rw [hall, nonemptyEntry]
  cases hrequired : requiredKeys identifying keys with
  | nil => exact iff_of_true rfl (List.forall_mem_nil _)
  | cons key rest =>
    rw [List.isEmpty_cons, if_neg Bool.false_ne_true, keywordsHold_simple (by decide),
      simpleHolds_required, List.all_eq_true]

theorem additionalProperties_iff (dynamicKeys : Option Node) (other : Bool)
    (entries : Entries Document) :
    keywordsHold declared [("additionalProperties", dynamicKeys.elim (.bool other) (body none))]
      (.object entries) = true ↔
      ∀ entry ∈ entries, entry.1 ∉ declared →
        (∀ node ∈ dynamicKeys, accepts (body none node) entry.2 = true) ∧
        (dynamicKeys = none → other = true) := by
  rw [keywordsHold_additionalProperties]
  cases dynamicKeys with
  | none => simp [accepts, Decidable.or_iff_not_imp_left]
  | some node => simp [Decidable.or_iff_not_imp_left]

theorem propertyNames_append {keys : List (String × Node)} {after : Entries Document}
    (h : after.lookup "properties" = none) :
    propertyNames (nonemptyEntry "properties" (.object (properties keys)) keys.isEmpty ++ after) =
      keys.map Prod.fst := by
  cases keys with
  | nil => simp [propertyNames, nonemptyEntry, h]
  | cons property rest => simp [propertyNames, nonemptyEntry, map_fst_properties]

theorem accepts_dict {keys : Option (List (String × Node))} {dynamicKeys : Option Node}
    {other : Option Bool} (entries : Entries Document) :
    accepts (body identifying (.dict a keys dynamicKeys other)) (.object entries) = true ↔
      (∀ property ∈ keys.getD [], ∀ value, entries.lookup property.1 = some value →
        accepts (body none property.2) value = true) ∧
      (∀ property ∈ keys.getD [], property.2.isRequired = true ∨ identifying = some property.1 →
        (entries.lookup property.1).isSome) ∧
      ∀ entry ∈ entries, entry.1 ∉ (keys.getD []).map Prod.fst →
        (∀ node ∈ dynamicKeys, accepts (body none node) entry.2 = true) ∧
        (dynamicKeys = none → other.getD false = true) := by
  have htype : typeHolds "object" (.object entries) = true := rfl
  have hlookup (keys : List String) (additional : Document) :
      (nonemptyEntry "required" (ofList .string keys) keys.isEmpty ++
        [("additionalProperties", additional)]).lookup "properties" = none := by
    cases keys <;> rfl
  rw [body_dict, accepts_typed, htype, propertyNames_append (hlookup _ _)]
  simp only [keywordsHold_append, properties_iff, required_iff, additionalProperties_iff,
    Bool.true_and, Bool.and_eq_true]

theorem accepts_list {items : Option Node} {c : ListConstraints} (values : List Document) :
    accepts (body identifying (.list a items c)) (.array values) = true ↔
      (∀ item ∈ items, ∀ value ∈ values, accepts (body c.primaryKey item) value = true) ∧
      (∀ min ∈ c.minLength, min ≤ values.length) ∧ ∀ max ∈ c.maxLength, values.length ≤ max := by
  have htype : typeHolds "array" (.array values) = true := rfl
  have hitems (declared : List String) : keywordsHold declared
      (entry "items" (body c.primaryKey) items) (.array values) = true ↔
      ∀ item ∈ items, ∀ value ∈ values, accepts (body c.primaryKey item) value = true := by
    cases items with
    | none => exact iff_of_true rfl nofun
    | some item =>
      simp only [entry, keywordsHold_items, List.all_eq_true, Option.mem_def,
        Option.some.injEq, forall_eq']
  rw [body_list, accepts_typed, htype]
  simp (disch := decide) only [Bool.true_and, keywordsHold_append, Bool.and_eq_true, hitems,
    keywordsHold_entry, simpleHolds_minItems, simpleHolds_maxItems]
  simp [lengthHolds, itemCount?, ofLength, and_assoc]

end JsonSchema

end DataSchema
