import DataSchema.Proofs.MetaSchema.Legal
import DataSchema.Proofs.Node.Alike
import DataSchema.Proofs.Node.Everywhere

/-!
# Lawful nodes

A node is lawful when every field that it or a node below it sets belongs to the kind and has a
value that the field allows. What is read from a legal document is lawful. The values of fields do
not depend on each other, and the ones of a merged node are taken from either node or united from
both, so merging keeps nodes lawful, and so does resolution as long as all fragments are lawful.
References are no fields: what form they have is said apart.
-/

namespace DataSchema

def ScalarField.key : ScalarField → String
  | .required => "required"
  | .fallback => "default"
  | .description => "description"
  | .displayName => "display_name"
  | .minLength => "min_length"
  | .maxLength => "max_length"
  | .min => "min"
  | .max => "max"
  | .pattern => "pattern"
  | .format => "format"
  | .convertToLowerCase => "convert_to_lower_case"
  | .allowOtherKeys => "allow_other_keys"
  | .primaryKey => "primary_key"

def ListField.key : ListField → String
  | .validValues => "valid_values"
  | .convertTypes => "convert_types"

namespace Node

/-- The node itself sets nothing that its kind does not allow. -/
structure FieldsLawful (node : Node) : Prop where
  scalar : ∀ field value, node.scalar? field = some value →
    MetaSchema.Allows node.kind field.key value
  listed : ∀ field values, node.listed? field = some values →
    MetaSchema.Allows node.kind field.key (.array values)

/-- No node of the tree sets anything that its kind does not allow. -/
inductive Lawful : Node → Prop
  | node {node : Node} (hfields : node.FieldsLawful)
      (hbelow : ∀ inner ∈ node.children, Lawful inner) : Lawful node

theorem Lawful.fields {node : Node} (h : node.Lawful) : node.FieldsLawful := by
  cases h
  assumption

theorem Lawful.of_mem_children {node inner : Node} (h : node.Lawful)
    (hinner : inner ∈ node.children) : inner.Lawful := by
  cases h with
  | node _ hbelow => exact hbelow inner hinner

theorem lawful_iff_everywhere {node : Node} : node.Lawful ↔ node.Everywhere FieldsLawful := by
  induction node using inductionOnChildren with
  | h node ih =>
    constructor
    · intro h
      exact .node h.fields fun inner hinner => (ih inner hinner).1 (h.of_mem_children hinner)
    · intro h
      exact .node h.here fun inner hinner => (ih inner hinner).2 (h.of_mem_children hinner)

def ReferenceLawful (node : Node) : Prop :=
  ∀ reference ∈ node.attributes.reference, MetaSchema.Allows node.kind "$ref" (.string reference)

end Node

/-! ### Nodes of legal documents -/

namespace Field

variable {α : Type} {read : Document → Option α} {write : α → Document} {key : String}
  {entries : Entries Document} {value : Option α} {document : Document}

/-- Where writing undoes reading, what a field holds is what is written for it. -/
theorem lookup_of_optional (hwrite : ∀ document a, read document = some a → write a = document)
    (h : Field.optional read key entries = some value) (hvalue : value.map write = some document) :
    entries.lookup key = some document := by
  obtain ⟨a, rfl, rfl⟩ := Option.map_eq_some_iff.1 hvalue
  obtain ⟨found, hlookup, hread⟩ := optional_eq_some_some h
  rw [hlookup, hwrite found a hread]

theorem string_of_text? (document : Document) (text : String) (h : text? document = some text) :
    .string text = document := by
  cases document with
  | string => cases h; rfl
  | _ => cases h

theorem bool_of_flag? (document : Document) (flag : Bool) (h : flag? document = some flag) :
    .bool flag = document := by
  cases document with
  | bool => cases h; rfl
  | _ => cases h

theorem int_of_word? (document : Document) (value : Int) (h : word? document = some value) :
    .int value = document := by
  unfold word? at h
  grind

theorem ofLength_of_length? (document : Document) (length : Nat)
    (h : length? document = some length) :
    ofLength length = document := by
  unfold length? at h
  grind [ofLength]

theorem ofList_of_listOf (hwrite : ∀ document a, read document = some a → write a = document)
    (document : Document) (values : List α) (h : listOf read document = some values) :
    ofList write values = document := by
  cases document with
  | array elements =>
    have hmap : ∀ {elements : List Document} {values}, elements.mapM read = some values →
        values.map write = elements := by
      intro elements
      induction elements with
      | nil => simp
      | cons element rest ih =>
        intro values h
        rw [List.mapM_cons] at h
        obtain ⟨first, hfirst, h⟩ := Option.bind_eq_some_iff.1 h
        obtain ⟨others, hothers, h⟩ := Option.bind_eq_some_iff.1 h
        cases h
        rw [List.map_cons, hwrite _ _ hfirst, ih hothers]
    exact congrArg Document.array (hmap h)
  | _ => cases h

end Field

namespace Node

variable {entries : Entries Document} {node : Node}

theorem ReadsAs.lookup_of_scalar? (h : ReadsAs entries node) {field : ScalarField}
    {value : Document} (hvalue : node.scalar? field = some value) :
    entries.lookup field.key = some value := by
  obtain ⟨-, hrequired, hfallback, hdescription, hdisplayName, -⟩ :=
    Attributes.ofEntries?_eq_some_iff.1 h.attributes
  cases field with
  | required => exact Field.lookup_of_optional Field.bool_of_flag? hrequired hvalue
  | description => exact Field.lookup_of_optional Field.string_of_text? hdescription hvalue
  | displayName => exact Field.lookup_of_optional Field.string_of_text? hdisplayName hvalue
  | fallback =>
    refine Field.lookup_of_optional (fun _ _ h => ?_) hfallback
      ((congrFun Option.map_id _).trans hvalue)
    exact (Option.some.inj h).symm
  | minLength =>
    cases h with
    | str _ _ hc =>
      obtain ⟨-, hminLength, -⟩ := TextConstraints.ofEntries?_eq_some_iff.1 hc
      exact Field.lookup_of_optional Field.ofLength_of_length? hminLength hvalue
    | list _ _ _ hc =>
      obtain ⟨-, hminLength, -⟩ := ListConstraints.ofEntries?_eq_some_iff.1 hc
      exact Field.lookup_of_optional Field.ofLength_of_length? hminLength hvalue
    | _ => cases hvalue
  | maxLength =>
    cases h with
    | str _ _ hc =>
      obtain ⟨-, -, hmaxLength, -⟩ := TextConstraints.ofEntries?_eq_some_iff.1 hc
      exact Field.lookup_of_optional Field.ofLength_of_length? hmaxLength hvalue
    | list _ _ _ hc =>
      obtain ⟨-, -, hmaxLength⟩ := ListConstraints.ofEntries?_eq_some_iff.1 hc
      exact Field.lookup_of_optional Field.ofLength_of_length? hmaxLength hvalue
    | _ => cases hvalue
  | min =>
    cases h with
    | int _ _ hc =>
      obtain ⟨-, hmin, -⟩ := IntConstraints.ofEntries?_eq_some_iff.1 hc
      exact Field.lookup_of_optional Field.int_of_word? hmin hvalue
    | _ => cases hvalue
  | max =>
    cases h with
    | int _ _ hc =>
      obtain ⟨-, -, hmax⟩ := IntConstraints.ofEntries?_eq_some_iff.1 hc
      exact Field.lookup_of_optional Field.int_of_word? hmax hvalue
    | _ => cases hvalue
  | pattern =>
    cases h with
    | str _ _ hc =>
      obtain ⟨-, -, -, hpattern, -⟩ := TextConstraints.ofEntries?_eq_some_iff.1 hc
      exact Field.lookup_of_optional Field.string_of_text? hpattern hvalue
    | _ => cases hvalue
  | format =>
    cases h with
    | str _ _ hc =>
      obtain ⟨-, -, -, -, hformat, -⟩ := TextConstraints.ofEntries?_eq_some_iff.1 hc
      exact Field.lookup_of_optional Field.string_of_text? hformat hvalue
    | _ => cases hvalue
  | convertToLowerCase =>
    cases h with
    | str _ _ hc =>
      obtain ⟨-, -, -, -, -, hlowerCase⟩ := TextConstraints.ofEntries?_eq_some_iff.1 hc
      exact Field.lookup_of_optional Field.bool_of_flag? hlowerCase hvalue
    | _ => cases hvalue
  | allowOtherKeys =>
    cases h with
    | dict _ _ _ _ hother => exact Field.lookup_of_optional Field.bool_of_flag? hother hvalue
    | _ => cases hvalue
  | primaryKey =>
    cases h with
    | list _ _ _ hc =>
      obtain ⟨hprimaryKey, -⟩ := ListConstraints.ofEntries?_eq_some_iff.1 hc
      exact Field.lookup_of_optional Field.string_of_text? hprimaryKey hvalue
    | _ => cases hvalue

/-- Values that are listed stand in the object as they would be written,
except for names of kinds. -/
theorem ReadsAs.lookup_of_validValues (h : ReadsAs entries node) {values : List Document}
    (hvalues : node.listed? .validValues = some values) :
    entries.lookup "valid_values" = some (.array values) := by
  have hlist : ∀ {α : Type} {write : α → Document} {value : Option (List α)},
      value.map (List.map write) = some values →
      value.map (Field.ofList write) = some (.array values) := by
    intro α write value h
    obtain ⟨list, rfl, rfl⟩ := Option.map_eq_some_iff.1 h
    rfl
  cases h with
  | str _ _ hc =>
    obtain ⟨hvalid, -⟩ := TextConstraints.ofEntries?_eq_some_iff.1 hc
    exact Field.lookup_of_optional (Field.ofList_of_listOf Field.string_of_text?) hvalid
      (hlist hvalues)
  | int _ _ hc =>
    obtain ⟨hvalid, -⟩ := IntConstraints.ofEntries?_eq_some_iff.1 hc
    exact Field.lookup_of_optional (Field.ofList_of_listOf Field.int_of_word?) hvalid
      (hlist hvalues)
  | bool _ _ hc =>
    have hvalid := BoolConstraints.ofEntries?_eq_some_iff.1 hc
    exact Field.lookup_of_optional (Field.ofList_of_listOf Field.bool_of_flag?) hvalid
      (hlist hvalues)
  | _ => cases hvalues

end Node

namespace MetaSchema

variable {kind : Kind} {entries : Entries Document} {node : Node}

def listRule (item : Node) : Node := .list .empty (some item) ⟨none, none, none⟩

def nameRule (a : Attributes) (names : List String) : Node :=
  .str a ⟨some names, none, none, none, none, none⟩

theorem conforms_listRule_iff {item : Node} {values : List Document} :
    Conforms Formats.builtin (listRule item) none (.array values) ↔
      ∀ value ∈ values, value ≠ .null ∧ Conforms Formats.builtin item none value := by
  constructor
  · intro h value hvalue
    cases h with
    | list _ hnonNull heach => exact ⟨hnonNull rfl value hvalue, heach item rfl value hvalue⟩
  · intro h
    refine .list ⟨by simp, by simp⟩ (fun _ value hvalue => (h value hvalue).1) ?_ ?_
    · intro item' hitem value hvalue
      cases hitem
      exact (h value hvalue).2
    · have hnone : Validation.identities none values = [] :=
        List.filterMap_eq_nil_iff.2 fun _ _ => rfl
      rw [hnone]
      exact List.nodup_nil

theorem conforms_nameRule_iff {a : Attributes} {names : List String} {name : String} :
    Conforms Formats.builtin (nameRule a names) none (.string name) ↔ name ∈ names := by
  constructor
  · intro h
    cases h with
    | str hallows => simpa [TextConstraints.ignoresCase] using hallows.listed names rfl
  · intro h
    exact .str ⟨by simp, by simp, by simp [TextConstraints.patternSource?], by simp, by
      simpa [TextConstraints.ignoresCase] using h⟩

theorem exists_listRule {field : ListField} {rule : Node}
    (hrule : field? kind field.key = some rule) :
    ∃ item, rule = listRule item := by
  cases kind <;> cases field <;> first | exact ⟨_, (Option.some.inj hrule).symm⟩ | cases hrule

/-- With a name of a kind, its short name is allowed as well. -/
theorem exists_nameRule {rule : Node} (hrule : field? kind "convert_types" = some rule) : ∃ names,
    rule = listRule (nameRule .empty names) ∧ ∀ name ∈ names, ∀ kind ∈ Kind.ofName? name,
      kind.name ∈ names := by
  cases kind with
  | str | int | bool => exact ⟨_, (Option.some.inj hrule).symm, by decide⟩
  | dict | list => cases hrule

theorem Allows.convertTypes {elements : List Document} {kinds : List Kind}
    (h : Allows kind "convert_types" (.array elements))
    (hread : elements.mapM Field.kind? = some kinds) :
    Allows kind "convert_types" (.array (kinds.map Field.ofKind)) := by
  obtain ⟨rule, hrule, hconforms⟩ := h
  obtain ⟨names, rfl, hnames⟩ := exists_nameRule hrule
  refine ⟨_, hrule, conforms_listRule_iff.2 ?_⟩
  rw [conforms_listRule_iff] at hconforms
  clear hrule
  induction elements generalizing kinds with
  | nil =>
    cases hread
    simp
  | cons element rest ih =>
    rw [List.mapM_cons] at hread
    obtain ⟨first, hfirst, hread⟩ := Option.bind_eq_some_iff.1 hread
    obtain ⟨others, hothers, hread⟩ := Option.bind_eq_some_iff.1 hread
    cases hread
    rw [List.forall_mem_cons] at hconforms
    rw [List.map_cons, List.forall_mem_cons]
    refine ⟨⟨by simp [Field.ofKind], ?_⟩, ih hothers hconforms.2⟩
    cases element with
    | string name =>
      exact conforms_nameRule_iff.2
        (hnames name (conforms_nameRule_iff.1 hconforms.1.2) first hfirst)
    | _ => cases hfirst

theorem FieldsLegal.fieldsLawful (h : FieldsLegal node.kind entries)
    (hreads : Node.ReadsAs entries node) :
    node.FieldsLawful where
  scalar field value hvalue := h _ _ (hreads.lookup_of_scalar? hvalue)
  listed field values hvalues := by
    cases field with
    | validValues => exact h _ _ (hreads.lookup_of_validValues hvalues)
    | convertTypes =>
      obtain ⟨-, -, -, -, -, hconvertTypes⟩ := Attributes.ofEntries?_eq_some_iff.1 hreads.attributes
      obtain ⟨kinds, hkinds, rfl⟩ := Option.map_eq_some_iff.1 hvalues
      rw [hkinds] at hconvertTypes
      obtain ⟨document, hlookup, hread⟩ := Field.optional_eq_some_some hconvertTypes
      cases document with
      | array elements => exact Allows.convertTypes (h _ _ hlookup) hread
      | _ => cases hread

theorem Allows.unite {order : ListOrder} {field : ListField}
    {first second : Option (List Document)} {values : List Document}
    (hfirst : ∀ values, first = some values → Allows kind field.key (.array values))
    (hsecond : ∀ values, second = some values → Allows kind field.key (.array values))
    (h : order.unite first second = some values) : Allows kind field.key (.array values) := by
  cases first with
  | none =>
    cases second with
    | none => cases h
    | some second => exact hsecond values h
  | some first =>
    cases second with
    | none => exact hfirst values h
    | some second =>
      obtain ⟨rule, hrule, hconforms⟩ := hfirst first rfl
      obtain ⟨rule', hrule', hconforms'⟩ := hsecond second rfl
      cases hrule.symm.trans hrule'
      obtain ⟨item, rfl⟩ := exists_listRule hrule
      rw [conforms_listRule_iff] at hconforms hconforms'
      refine ⟨_, hrule, conforms_listRule_iff.2 fun value hvalue => ?_⟩
      have hmem : value ∈ first ∨ value ∈ second := by
        have hunited : value ∈ (order.unite (some first) (some second)).getD [] := by rwa [h]
        exact mem_unite.1 hunited
      exact hmem.elim (hconforms value) (hconforms' value)

theorem FieldsLegal.referenceLawful (h : FieldsLegal node.kind entries)
    (hreads : Node.ReadsAs entries node) :
    node.ReferenceLawful := by
  intro text htext
  obtain ⟨hreference, -⟩ := Attributes.ofEntries?_eq_some_iff.1 hreads.attributes
  exact h _ _ (Field.lookup_of_optional Field.string_of_text? hreference
    (congrArg (Option.map Document.string) htext))

theorem Legal.everywhere {good : Node → Prop} {maxDepth depth : Nat} {document : Document}
    (hgood : ∀ {entries : Entries Document} {node : Node}, FieldsLegal node.kind entries →
      Node.ReadsAs entries node → good node) (h : Legal maxDepth depth document)
    (hread : Node.ofDocument? document = some node) : node.Everywhere good := by
  induction node using Node.inductionOnChildren generalizing depth document with
  | h node ih =>
    constructor
    · cases h with
      | node _ hkind hfields =>
        have hreads := Node.ofDocument?_object_eq_some_iff.1 hread
        cases hreads.kind.symm.trans hkind
        exact hgood hfields hreads
    · intro inner hinner
      obtain ⟨below, hbelow, hread'⟩ := h.exists_of_mem_children hread hinner
      exact ih inner hinner hbelow hread'

/-- What is read from a legal document is lawful. -/
theorem Legal.lawful {maxDepth depth : Nat} {document : Document}
    (h : Legal maxDepth depth document) (hread : Node.ofDocument? document = some node) :
    node.Lawful :=
  Node.lawful_iff_everywhere.2 (h.everywhere FieldsLegal.fieldsLawful hread)

theorem Legal.referenceLawful {maxDepth depth : Nat} {document : Document}
    (h : Legal maxDepth depth document) (hread : Node.ofDocument? document = some node) :
    node.Everywhere Node.ReferenceLawful :=
  h.everywhere FieldsLegal.referenceLawful hread

end MetaSchema

/-! ### Merging -/

namespace Node

variable {order : ListOrder} {base overlay merged : Node}

theorem FieldsLawful.merged? (hbase : base.FieldsLawful) (hoverlay : overlay.FieldsLawful)
    (h : base.merged? order overlay = some merged) : merged.FieldsLawful where
  scalar field value hvalue := by
    rw [scalar?_of_merged? h, Option.or_eq_some_iff] at hvalue
    rw [kind_merged? h]
    rcases hvalue with hvalue | ⟨-, hvalue⟩
    · exact hoverlay.scalar field value hvalue
    · exact kind_of_merged? h ▸ hbase.scalar field value hvalue
  listed field values hvalues := by
    rw [listed?_of_merged? h] at hvalues
    rw [kind_merged? h]
    exact MetaSchema.Allows.unite (kind_of_merged? h ▸ hbase.listed field)
      (hoverlay.listed field) hvalues

theorem fieldsLawful_ofFields : OfFields FieldsLawful where
  congr hkind hscalar hlisted h := by
    constructor
    · simpa only [hkind, hscalar] using h.scalar
    · simpa only [hkind, hlisted] using h.listed
  merged? := FieldsLawful.merged?

theorem Lawful.merged? (hbase : base.Lawful) (hoverlay : overlay.Lawful)
    (h : base.merged? order overlay = some merged) :
    merged.Lawful :=
  lawful_iff_everywhere.2 (.merged? FieldsLawful.merged? (lawful_iff_everywhere.1 hbase)
    (lawful_iff_everywhere.1 hoverlay) h)

theorem ReferenceLawful.merged? (hbase : base.ReferenceLawful) (hoverlay : overlay.ReferenceLawful)
    (h : base.merged? order overlay = some merged) : merged.ReferenceLawful := by
  intro reference hreference
  rw [reference_of_merged? h, Option.mem_def, Option.or_eq_some_iff] at hreference
  rw [kind_merged? h]
  rcases hreference with hreference | ⟨-, hreference⟩
  · exact hoverlay reference hreference
  · exact kind_of_merged? h ▸ hbase reference hreference

theorem everywhere_referenceLawful (h : base.references = []) :
    base.Everywhere ReferenceLawful := by
  induction base using inductionOnChildren with
  | h base ih =>
    obtain ⟨hplain, hbelow⟩ := references_eq_nil_iff.1 h
    refine .node (fun reference hreference => ?_) fun inner hinner =>
      ih inner hinner (hbelow inner hinner)
    simp [hplain] at hreference

end Node

end DataSchema
