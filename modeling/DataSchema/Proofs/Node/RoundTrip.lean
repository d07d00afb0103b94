import DataSchema.Proofs.MetaSchema.Writing

/-!
# Reading what was written

A node is written as the list of its fields, in a fixed order and without those that are not set.
The names of the fields are pairwise different, so reading one of them finds what was written for it
and nothing else. What was written is read back when the readers accept it: bounds and lengths have
to be words, and a default must not be null, because null would be taken for a default that is not
set. No node that was read from a document breaks this, and merging cannot bring it about.
-/

namespace DataSchema

/-! ### Lists of fields -/

namespace Field

variable {fields : List (String × Option Document)} {key : String}

def present (fields : List (String × Option Document)) : Entries Document :=
  fields.filterMap fun field => field.2.map (field.1, ·)

theorem present_append (first rest : List (String × Option Document)) :
    present (first ++ rest) = present first ++ present rest :=
  List.filterMap_append

theorem entry_eq_present {α : Type} (key : String) (write : α → Document) (value : Option α) :
    entry key write value = present [(key, value.map write)] := by
  cases value <;> rfl

theorem map_fst_present_sublist (fields : List (String × Option Document)) :
    ((present fields).map Prod.fst).Sublist (fields.map Prod.fst) := by
  induction fields with
  | nil => exact List.Sublist.refl _
  | cons field rest ih =>
    obtain ⟨name, value⟩ := field
    cases value with
    | none => exact ih.cons name
    | some value => exact ih.cons_cons name

theorem lookup_present (hnodup : (fields.map Prod.fst).Nodup) {value : Option Document}
    (h : (key, value) ∈ fields) :
    (present fields).lookup key = value := by
  have hnames := hnodup.sublist (map_fst_present_sublist fields)
  cases value with
  | some document => exact Entries.lookup_of_mem hnames (List.mem_filterMap.2 ⟨_, h, rfl⟩)
  | none =>
    rw [Entries.lookup_eq_none_iff]
    intro hkey
    obtain ⟨entry, hentry, rfl⟩ := List.mem_map.1 hkey
    obtain ⟨field, hfield, hset⟩ := List.mem_filterMap.1 hentry
    obtain ⟨document, hdocument, rfl⟩ := Option.map_eq_some_iff.1 hset
    have hsame : field = (field.1, none) := List.inj_on_of_nodup_map hnodup hfield h rfl
    rw [hsame] at hdocument
    cases hdocument

end Field

open DataSchema.Field

def Attributes.fields (a : Attributes) : List (String × Option Document) :=
  [("$ref", a.reference.map .string), ("required", a.required.map .bool),
    ("default", a.fallback.map id),
    ("description", a.description.map .string), ("display_name", a.displayName.map .string),
    ("convert_types", a.convertTypes.map (ofList ofKind))]

def TextConstraints.fields (c : TextConstraints) : List (String × Option Document) :=
  [("valid_values", c.validValues.map (ofList .string)), ("min_length", c.minLength.map ofLength),
    ("max_length", c.maxLength.map ofLength), ("pattern", c.pattern.map .string),
    ("format", c.format.map .string),
    ("convert_to_lower_case", c.convertToLowerCase.map .bool)]

def IntConstraints.fields (c : IntConstraints) : List (String × Option Document) :=
  [("valid_values", c.validValues.map (ofList .int)), ("min", c.min.map .int),
    ("max", c.max.map .int)]

def BoolConstraints.fields (c : BoolConstraints) : List (String × Option Document) :=
  [("valid_values", c.validValues.map (ofList .bool))]

def ListConstraints.fields (c : ListConstraints) : List (String × Option Document) :=
  [("primary_key", c.primaryKey.map .string), ("min_length", c.minLength.map ofLength),
    ("max_length", c.maxLength.map ofLength)]

namespace Node

variable {node inner base overlay merged : Node} {entries : Entries Document} {key : String}

def writtenKeys (keys : List (String × Node)) : Document := .object (keyDocuments keys)

def kindFields : Node → List (String × Option Document)
  | .str _ c => c.fields
  | .int _ c => c.fields
  | .bool _ c => c.fields
  | .dict _ keys dynamicKeys other =>
    [("keys", keys.map writtenKeys), ("dynamic_keys", dynamicKeys.map toDocument),
      ("allow_other_keys", other.map .bool)]
  | .list _ items c => ("items", items.map toDocument) :: c.fields

/-- All fields of a node as they are written, in order, those that are not set included. -/
def fields (node : Node) : List (String × Option Document) :=
  node.attributes.fields ++ ("type", some (ofKind node.kind)) :: node.kindFields

theorem toEntries_eq_present (node : Node) : node.toEntries = Field.present node.fields := by
  have hnode : ∀ name value, nodeEntry name value = entry name toDocument value := by
    intro name value
    cases value <;> rfl
  have hkeys : ∀ keys, keysEntry keys = entry "keys" writtenKeys keys := by
    intro keys
    cases keys <;> rfl
  have hattributes : ∀ a : Attributes, a.toEntries = Field.present a.fields := by
    intro a
    simp only [Attributes.toEntries, Field.entry_eq_present, ← Field.present_append]
    rfl
  have htype : ∀ rest, Field.present (("type", some (ofKind node.kind)) :: rest) =
      ("type", ofKind node.kind) :: Field.present rest := fun _ => rfl
  rw [fields, Field.present_append, htype, ← hattributes]
  cases node with
  | str | int | bool | dict | list =>
    simp only [toEntries, toDocument, TextConstraints.toEntries, IntConstraints.toEntries,
      BoolConstraints.toEntries, ListConstraints.toEntries, hnode, hkeys, Field.entry_eq_present,
      ← Field.present_append, List.append_assoc, List.cons_append]
    rfl

end Node

/-- The names of the fields that nodes of the kind have, in the order in which they are written. -/
def Kind.fieldNames (kind : Kind) : List String :=
  ["$ref", "required", "default", "description", "display_name", "convert_types", "type"] ++
    match kind with
    | .str =>
      ["valid_values", "min_length", "max_length", "pattern", "format", "convert_to_lower_case"]
    | .int => ["valid_values", "min", "max"]
    | .bool => ["valid_values"]
    | .dict => ["keys", "dynamic_keys", "allow_other_keys"]
    | .list => ["items", "primary_key", "min_length", "max_length"]

namespace Node

variable {node inner base overlay merged : Node} {entries : Entries Document} {key : String}

theorem map_fst_fields (node : Node) : node.fields.map Prod.fst = node.kind.fieldNames := by
  cases node <;> rfl

theorem nodup_map_fst_fields (node : Node) : (node.fields.map Prod.fst).Nodup := by
  rw [map_fst_fields]
  cases node.kind <;> decide

theorem map_fst_toEntries_sublist (node : Node) :
    (node.toEntries.map Prod.fst).Sublist node.kind.fieldNames := by
  rw [toEntries_eq_present, ← map_fst_fields]
  exact Field.map_fst_present_sublist _

theorem lookup_toEntries {value : Option Document} (h : (key, value) ∈ node.fields) :
    node.toEntries.lookup key = value := by
  rw [toEntries_eq_present]
  exact Field.lookup_present node.nodup_map_fst_fields h

end Node

/-! ### Values that are read back -/

namespace Field

variable {α : Type} {read : Document → Option α} {write : α → Document} {key : String}
  {entries : Entries Document}

/-- What is written for the value is read as the value, and not taken for
a value that is not set. -/
def ReadsBack (read : Document → Option α) (write : α → Document) (value : α) : Prop :=
  write value ≠ .null ∧ read (write value) = some value

theorem optional_of_lookup {value : Option α} (h : ∀ a ∈ value, ReadsBack read write a)
    (hlookup : entries.lookup key = value.map write) : optional read key entries = some value := by
  cases value with
  | none => exact optional_of_lookup_eq_none hlookup
  | some a =>
    obtain ⟨hnull, hread⟩ := h a rfl
    rw [optional_of_lookup_eq_some hlookup hnull, hread, Option.map_some]

theorem readsBack_text (text : String) : ReadsBack text? .string text := ⟨nofun, rfl⟩

theorem readsBack_flag (flag : Bool) : ReadsBack flag? .bool flag := ⟨nofun, rfl⟩

theorem readsBack_kind (kind : Kind) : ReadsBack kind? ofKind kind := by
  cases kind <;> exact ⟨nofun, rfl⟩

theorem readsBack_word {value : Int} (h : (word? (.int value)).isSome) :
    ReadsBack word? .int value := by
  refine ⟨nofun, ?_⟩
  obtain ⟨word, hword⟩ := Option.isSome_iff_exists.1 h
  rw [hword, Document.int.inj (int_of_word? _ _ hword)]

theorem readsBack_length {length : Nat} (h : (length? (ofLength length)).isSome) :
    ReadsBack length? ofLength length := by
  refine ⟨nofun, ?_⟩
  obtain ⟨count, hcount⟩ := Option.isSome_iff_exists.1 h
  rw [hcount, Int.ofNat.inj (Document.int.inj (ofLength_of_length? _ _ hcount))]

theorem readsBack_list {values : List α} (h : ∀ value ∈ values, ReadsBack read write value) :
    ReadsBack (listOf read) (ofList write) values := by
  refine ⟨nofun, ?_⟩
  change (values.map write).mapM read = some values
  induction values with
  | nil => rfl
  | cons value rest ih =>
    rw [List.forall_mem_cons] at h
    rw [List.map_cons, List.mapM_cons, h.1.2, ih h.2]
    rfl

theorem forall_of_listOf {property : α → Prop}
    (hread : ∀ document a, read document = some a → property a) {document : Document}
    {values : List α} (h : listOf read document = some values) :
    ∀ value ∈ values, property value := by
  cases document with
  | array elements =>
    change elements.mapM read = some values at h
    induction elements generalizing values with
    | nil =>
      cases h
      simp
    | cons element rest ih =>
      rw [List.mapM_cons] at h
      obtain ⟨first, hfirst, h⟩ := Option.bind_eq_some_iff.1 h
      obtain ⟨others, hothers, h⟩ := Option.bind_eq_some_iff.1 h
      cases h
      exact List.forall_mem_cons.2 ⟨hread _ _ hfirst, ih hothers⟩
  | _ => cases h

end Field

/-- The value of the field can be read back. -/
def ScalarField.Readable : ScalarField → Document → Prop
  | .fallback, value => value ≠ .null
  | .minLength, value => (length? value).isSome
  | .maxLength, value => (length? value).isSome
  | .min, value => (word? value).isSome
  | .max, value => (word? value).isSome
  | _, _ => True

namespace Node

variable {node inner base overlay merged : Node} {order : ListOrder} {entries : Entries Document}
  {key : String}

/-- What the node itself says can be read back. -/
structure FieldsReadable (node : Node) : Prop where
  scalar : ∀ field value, node.scalar? field = some value → field.Readable value
  words : ∀ i, .int i ∈ (node.listed? .validValues).getD [] → (word? (.int i)).isSome

theorem fieldsReadable_ofFields : OfFields FieldsReadable where
  congr _ hscalar hlisted h := by
    refine ⟨fun field value hvalue => ?_, fun i hi => ?_⟩
    · exact h.scalar field value (hscalar field ▸ hvalue)
    · exact h.words i (hlisted .validValues ▸ hi)
  merged? {order base overlay merged} hbase hoverlay h := by
    constructor
    · intro field value hvalue
      rw [scalar?_of_merged? h, Option.or_eq_some_iff] at hvalue
      rcases hvalue with hvalue | ⟨-, hvalue⟩
      · exact hoverlay.scalar field value hvalue
      · exact hbase.scalar field value hvalue
    · intro i hi
      rw [listed?_of_merged? h, mem_unite] at hi
      exact hi.elim (hbase.words i) (hoverlay.words i)

/-! ### What was read from a document -/

theorem ReadsAs.fieldsReadable (h : ReadsAs entries node) : node.FieldsReadable where
  scalar field value hvalue := by
    have hlookup := h.lookup_of_scalar? hvalue
    have hread : ∀ {α : Type} {read : Document → Option α} {write : α → Document} {held : Option α},
        Field.optional read field.key entries = some held → held.map write = some value →
          (read value).isSome := by
      intro α read write held hheld hwritten
      obtain ⟨a, rfl, -⟩ := Option.map_eq_some_iff.1 hwritten
      obtain ⟨found, hfound, hread⟩ := Field.optional_eq_some_some hheld
      rw [hlookup] at hfound
      cases hfound
      rw [hread, Option.isSome_some]
    cases field with
    | fallback =>
      obtain ⟨-, -, hfallback, -⟩ := Attributes.ofEntries?_eq_some_iff.1 h.attributes
      rintro rfl
      have hunset : Field.optional some "default" entries = some none :=
        Field.optional_of_lookup_eq_null hlookup
      cases (Option.some.inj (hunset.symm.trans hfallback)).trans hvalue
    | minLength =>
      cases h with
      | str _ _ hc => exact hread (TextConstraints.ofEntries?_eq_some_iff.1 hc).2.1 hvalue
      | list _ _ _ hc => exact hread (ListConstraints.ofEntries?_eq_some_iff.1 hc).2.1 hvalue
      | _ => cases hvalue
    | maxLength =>
      cases h with
      | str _ _ hc => exact hread (TextConstraints.ofEntries?_eq_some_iff.1 hc).2.2.1 hvalue
      | list _ _ _ hc => exact hread (ListConstraints.ofEntries?_eq_some_iff.1 hc).2.2 hvalue
      | _ => cases hvalue
    | min =>
      cases h with
      | int _ _ hc => exact hread (IntConstraints.ofEntries?_eq_some_iff.1 hc).2.1 hvalue
      | _ => cases hvalue
    | max =>
      cases h with
      | int _ _ hc => exact hread (IntConstraints.ofEntries?_eq_some_iff.1 hc).2.2 hvalue
      | _ => cases hvalue
    | _ => trivial
  words i hi := by
    cases hvalues : node.listed? .validValues with
    | none =>
      rw [hvalues] at hi
      cases hi
    | some values =>
      rw [hvalues] at hi
      cases h with
      | int _ _ hc =>
        obtain ⟨words, hwords, rfl⟩ := Option.map_eq_some_iff.1 hvalues
        have hfield := (IntConstraints.ofEntries?_eq_some_iff.1 hc).1
        rw [hwords] at hfield
        obtain ⟨document, -, hread⟩ := Field.optional_eq_some_some hfield
        obtain ⟨word, hword, hsame⟩ := List.mem_map.1 hi
        cases hsame
        have heach : ∀ document i, word? document = some i → (word? (.int i)).isSome := by
          intro document i hi
          rw [Field.int_of_word? document i hi, hi, Option.isSome_some]
        exact Field.forall_of_listOf heach hread _ hword
      | str =>
        obtain ⟨texts, -, rfl⟩ := Option.map_eq_some_iff.1 hvalues
        simp at hi
      | bool =>
        obtain ⟨flags, -, rfl⟩ := Option.map_eq_some_iff.1 hvalues
        simp at hi
      | _ => cases hvalues

theorem everywhere_fieldsReadable {document : Document} (h : ofDocument? document = some node) :
    node.Everywhere FieldsReadable := by
  induction document using Document.inductionOnNodes generalizing node with
  | h document ih =>
    cases document with
    | object entries =>
      have hreads := ofDocument?_object_eq_some_iff.1 h
      refine .node hreads.fieldsReadable fun inner hinner => ?_
      obtain ⟨document, hdocument, hread⟩ := hreads.exists_of_mem_children hinner
      exact ih entries _ document rfl hdocument hread
    | _ => cases h

/-! ### Reading it again -/

theorem optional_toEntries {α : Type} {read : Document → Option α} {write : α → Document}
    {value : Option α} (hread : ∀ a ∈ value, Field.ReadsBack read write a)
    (hfield : (key, value.map write) ∈ node.fields) :
    Field.optional read key node.toEntries = some value :=
  Field.optional_of_lookup hread (lookup_toEntries hfield)

theorem FieldsReadable.readsBack_length (h : node.FieldsReadable) {field : ScalarField}
    {value : Option Nat} (hfield : field = .minLength ∨ field = .maxLength)
    (hvalue : node.scalar? field = value.map ofLength) :
    ∀ length ∈ value, Field.ReadsBack length? ofLength length := by
  rintro length rfl
  have hreadable := h.scalar field _ hvalue
  rcases hfield with rfl | rfl <;> exact Field.readsBack_length hreadable

theorem FieldsReadable.readsBack_word (h : node.FieldsReadable) {field : ScalarField}
    {value : Option Int} (hfield : field = .min ∨ field = .max)
    (hvalue : node.scalar? field = value.map .int) :
    ∀ word ∈ value, Field.ReadsBack word? .int word := by
  rintro word rfl
  have hreadable := h.scalar field _ hvalue
  rcases hfield with rfl | rfl <;> exact Field.readsBack_word hreadable

theorem attributes_toEntries (h : node.FieldsReadable) :
    Attributes.ofEntries? node.toEntries = some node.attributes := by
  have hfield : ∀ field ∈ node.attributes.fields, field ∈ node.fields :=
    fun _ => List.mem_append_left _
  refine Attributes.ofEntries?_eq_some_iff.2 ⟨?_, ?_, ?_, ?_, ?_, ?_⟩
  · exact optional_toEntries (fun _ _ => Field.readsBack_text _)
      (hfield _ (by simp [Attributes.fields]))
  · exact optional_toEntries (fun _ _ => Field.readsBack_flag _)
      (hfield _ (by simp [Attributes.fields]))
  · exact optional_toEntries (fun _ hvalue => ⟨h.scalar .fallback _ hvalue, rfl⟩)
      (hfield _ (by simp [Attributes.fields]))
  · exact optional_toEntries (fun _ _ => Field.readsBack_text _)
      (hfield _ (by simp [Attributes.fields]))
  · exact optional_toEntries (fun _ _ => Field.readsBack_text _)
      (hfield _ (by simp [Attributes.fields]))
  · exact optional_toEntries (fun _ _ => Field.readsBack_list fun _ _ => Field.readsBack_kind _)
      (hfield _ (by simp [Attributes.fields]))

theorem textConstraints_toEntries {a : Attributes} {c : TextConstraints}
    (h : (str a c).FieldsReadable) :
    TextConstraints.ofEntries? (str a c).toEntries = some c := by
  have hfield : ∀ field ∈ c.fields, field ∈ (str a c).fields := fun _ hmem =>
    List.mem_append_right _ (List.mem_cons_of_mem _ hmem)
  refine TextConstraints.ofEntries?_eq_some_iff.2 ⟨?_, ?_, ?_, ?_, ?_, ?_⟩
  · exact optional_toEntries (fun _ _ => Field.readsBack_list fun _ _ => Field.readsBack_text _)
      (hfield _ (by simp [TextConstraints.fields]))
  · exact optional_toEntries (h.readsBack_length (.inl rfl) rfl)
      (hfield _ (by simp [TextConstraints.fields]))
  · exact optional_toEntries (h.readsBack_length (.inr rfl) rfl)
      (hfield _ (by simp [TextConstraints.fields]))
  · exact optional_toEntries (fun _ _ => Field.readsBack_text _)
      (hfield _ (by simp [TextConstraints.fields]))
  · exact optional_toEntries (fun _ _ => Field.readsBack_text _)
      (hfield _ (by simp [TextConstraints.fields]))
  · exact optional_toEntries (fun _ _ => Field.readsBack_flag _)
      (hfield _ (by simp [TextConstraints.fields]))

theorem intConstraints_toEntries {a : Attributes} {c : IntConstraints}
    (h : (int a c).FieldsReadable) :
    IntConstraints.ofEntries? (int a c).toEntries = some c := by
  have hfield : ∀ field ∈ c.fields, field ∈ (int a c).fields := fun _ hmem =>
    List.mem_append_right _ (List.mem_cons_of_mem _ hmem)
  have hword : ∀ values ∈ c.validValues, ∀ i ∈ values, Field.ReadsBack word? .int i := by
    intro values hvalues i hi
    refine Field.readsBack_word (h.words i ?_)
    rw [listed?, Option.mem_def.1 hvalues]
    exact List.mem_map_of_mem hi
  refine IntConstraints.ofEntries?_eq_some_iff.2 ⟨?_, ?_, ?_⟩
  · exact optional_toEntries (fun values hvalues => Field.readsBack_list (hword values hvalues))
      (hfield _ (by simp [IntConstraints.fields]))
  · exact optional_toEntries (h.readsBack_word (.inl rfl) rfl)
      (hfield _ (by simp [IntConstraints.fields]))
  · exact optional_toEntries (h.readsBack_word (.inr rfl) rfl)
      (hfield _ (by simp [IntConstraints.fields]))

theorem boolConstraints_toEntries (a : Attributes) (c : BoolConstraints) :
    BoolConstraints.ofEntries? (bool a c).toEntries = some c :=
  BoolConstraints.ofEntries?_eq_some_iff.2
    (optional_toEntries (fun _ _ => Field.readsBack_list fun _ _ => Field.readsBack_flag _)
      (List.mem_append_right _ (by simp [kindFields, BoolConstraints.fields])))

theorem listConstraints_toEntries {a : Attributes} {items : Option Node} {c : ListConstraints}
    (h : (list a items c).FieldsReadable) :
    ListConstraints.ofEntries? (list a items c).toEntries = some c := by
  have hfield : ∀ field ∈ c.fields, field ∈ (list a items c).fields := fun _ hmem =>
    List.mem_append_right _ (List.mem_cons_of_mem _ (List.mem_cons_of_mem _ hmem))
  refine ListConstraints.ofEntries?_eq_some_iff.2 ⟨?_, ?_, ?_⟩
  · exact optional_toEntries (fun _ _ => Field.readsBack_text _)
      (hfield _ (by simp [ListConstraints.fields]))
  · exact optional_toEntries (h.readsBack_length (.inl rfl) rfl)
      (hfield _ (by simp [ListConstraints.fields]))
  · exact optional_toEntries (h.readsBack_length (.inr rfl) rfl)
      (hfield _ (by simp [ListConstraints.fields]))

theorem readsBack_keys {keys : List (String × Node)}
    (h : ∀ entry ∈ keys, ofDocument? entry.2.toDocument = some entry.2) :
    Field.ReadsBack ofKeys? writtenKeys keys := by
  refine ⟨nofun, ?_⟩
  rw [writtenKeys, ofKeys?]
  induction keys with
  | nil => rfl
  | cons entry rest ih =>
    rw [List.forall_mem_cons] at h
    rw [keyDocuments, keyNodes?, h.1, ih h.2]
    rfl

theorem readsAs_toEntries (h : node.FieldsReadable)
    (hbelow : ∀ inner ∈ node.children, Field.ReadsBack ofDocument? toDocument inner) :
    ReadsAs node.toEntries node := by
  have hkind := node.declaredKind?_toEntries
  have hattributes := attributes_toEntries h
  cases node with
  | str a c => exact .str hkind hattributes (textConstraints_toEntries h)
  | int a c => exact .int hkind hattributes (intConstraints_toEntries h)
  | bool a c => exact .bool hkind hattributes (boolConstraints_toEntries a c)
  | dict a keys dynamicKeys other =>
    have hfield : ∀ {key value}, (key, value) ∈ (dict a keys dynamicKeys other).kindFields →
        (key, value) ∈ (dict a keys dynamicKeys other).fields :=
      fun hmem => List.mem_append_right _ (List.mem_cons_of_mem _ hmem)
    have hkeys : ("keys", keys.map writtenKeys) ∈ (dict a keys dynamicKeys other).fields :=
      hfield (by simp [kindFields])
    have hdynamic : ("dynamic_keys", dynamicKeys.map toDocument) ∈
        (dict a keys dynamicKeys other).fields :=
      hfield (by simp [kindFields])
    refine .dict hkind hattributes ?_ ?_ ?_
    · refine optional_toEntries (fun keys hkeys => ?_) hkeys
      refine readsBack_keys fun entry hentry => (hbelow entry.2 (List.mem_append_left _ ?_)).2
      rw [Option.mem_def.1 hkeys]
      exact List.mem_map_of_mem hentry
    · refine optional_toEntries (fun inner hinner => ?_) hdynamic
      exact hbelow inner (List.mem_append_right _ (Option.mem_toList.2 hinner))
    · exact optional_toEntries (fun _ _ => Field.readsBack_flag _) (hfield (by simp [kindFields]))
  | list a items c =>
    refine .list hkind hattributes ?_ (listConstraints_toEntries h)
    refine optional_toEntries (fun inner hinner => hbelow inner (Option.mem_toList.2 hinner)) ?_
    exact List.mem_append_right _ (by simp [kindFields])

/-- A tree whose values can be read back is read back. -/
theorem Everywhere.read_toDocument (h : node.Everywhere FieldsReadable) :
    ofDocument? node.toDocument = some node := by
  induction node using inductionOnChildren with
  | h node ih =>
    rw [toDocument_eq]
    refine ofDocument?_object_eq_some_iff.2 (readsAs_toEntries h.here fun inner hinner => ⟨?_, ?_⟩)
    · rw [toDocument_eq]
      nofun
    · exact ih inner hinner (h.of_mem_children hinner)

end Node

end DataSchema
