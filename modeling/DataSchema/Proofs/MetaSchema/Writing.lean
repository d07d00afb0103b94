import DataSchema.Proofs.MetaSchema.Lawful

/-!
# Writing lawful nodes

`Written` says what stands under which key when a node is written, without the order of the fields.
A lawful node whose references are in order is written as a legal document: its fields are allowed,
the ones that hold nodes are objects, and the document is as deep as the tree is high.
-/

namespace DataSchema

namespace Node

inductive Written : Node → String → Document → Prop
  | reference {node reference} (h : node.attributes.reference = some reference) :
      Written node "$ref" (.string reference)
  | type {node} : Written node "type" (.string node.kind.name)
  | scalar {node value} (field : ScalarField) (h : node.scalar? field = some value) :
      Written node field.key value
  | listed {node values} (field : ListField) (h : node.listed? field = some values) :
      Written node field.key (.array values)
  | keys {a keys dynamicKeys other} :
      Written (.dict a (some keys) dynamicKeys other) "keys" (.object (keyDocuments keys))
  | dynamicKeys {a keys node other} :
      Written (.dict a keys (some node) other) "dynamic_keys" node.toDocument
  | items {a node c} : Written (.list a (some node) c) "items" node.toDocument

variable {node : Node} {key : String} {document : Document}

theorem Written.of_scalar_entry {α : Type} {write : α → Document} {value : Option α}
    (field : ScalarField) (h : (key, document) ∈ Field.entry field.key write value)
    (hvalue : node.scalar? field = value.map write) :
    node.Written key document := by
  cases value with
  | none => cases h
  | some value =>
    cases List.mem_singleton.1 h
    exact .scalar field hvalue

theorem Written.of_list_entry {α : Type} {write : α → Document} {value : Option (List α)}
    (field : ListField) (h : (key, document) ∈ Field.entry field.key (Field.ofList write) value)
    (hvalue : node.listed? field = value.map (List.map write)) : node.Written key document := by
  cases value with
  | none => cases h
  | some values =>
    cases List.mem_singleton.1 h
    exact .listed field hvalue

theorem written_of_mem_attributes (h : (key, document) ∈ node.attributes.toEntries) :
    node.Written key document := by
  simp only [Attributes.toEntries, List.mem_append] at h
  rcases h with ((((h | h) | h) | h) | h) | h
  · cases hreference : node.attributes.reference with
    | none =>
      rw [hreference] at h
      cases h
    | some reference =>
      rw [hreference] at h
      cases List.mem_singleton.1 h
      exact .reference hreference
  · exact .of_scalar_entry .required h rfl
  · exact .of_scalar_entry .fallback h (congrFun Option.map_id _).symm
  · exact .of_scalar_entry .description h rfl
  · exact .of_scalar_entry .displayName h rfl
  · exact .of_list_entry .convertTypes h rfl

def toEntries (node : Node) : Entries Document :=
  match node.toDocument with
  | .object entries => entries
  | _ => []

theorem toDocument_eq (node : Node) : node.toDocument = .object node.toEntries := by
  cases node <;> rfl

theorem written_of_mem (h : (key, document) ∈ node.toEntries) : node.Written key document := by
  cases node with
  | str a c =>
    rcases List.mem_append.1 h with h | h
    · exact written_of_mem_attributes h
    · simp only [TextConstraints.toEntries, List.mem_cons, List.mem_append] at h
      rcases h with h | ((((h | h) | h) | h) | h) | h
      · cases h
        exact .type
      · exact .of_list_entry .validValues h rfl
      · exact .of_scalar_entry .minLength h rfl
      · exact .of_scalar_entry .maxLength h rfl
      · exact .of_scalar_entry .pattern h rfl
      · exact .of_scalar_entry .format h rfl
      · exact .of_scalar_entry .convertToLowerCase h rfl
  | int a c =>
    rcases List.mem_append.1 h with h | h
    · exact written_of_mem_attributes h
    · simp only [IntConstraints.toEntries, List.mem_cons, List.mem_append] at h
      rcases h with h | (h | h) | h
      · cases h
        exact .type
      · exact .of_list_entry .validValues h rfl
      · exact .of_scalar_entry .min h rfl
      · exact .of_scalar_entry .max h rfl
  | bool a c =>
    rcases List.mem_append.1 h with h | h
    · exact written_of_mem_attributes h
    · rcases List.mem_cons.1 h with h | h
      · cases h
        exact .type
      · exact .of_list_entry .validValues h rfl
  | dict a keys dynamicKeys other =>
    rcases List.mem_append.1 h with h | h
    · rcases List.mem_append.1 h with h | h
      · exact written_of_mem_attributes h
      · simp only [List.mem_cons, List.mem_append] at h
        rcases h with h | h | h
        · cases h
          exact .type
        · cases keys with
          | none => cases h
          | some keys =>
            cases List.mem_singleton.1 h
            exact .keys
        · cases dynamicKeys with
          | none => cases h
          | some inner =>
            cases List.mem_singleton.1 h
            exact .dynamicKeys
    · exact .of_scalar_entry .allowOtherKeys h rfl
  | list a items c =>
    rcases List.mem_append.1 h with h | h
    · rcases List.mem_append.1 h with h | h
      · exact written_of_mem_attributes h
      · rcases List.mem_cons.1 h with h | h
        · cases h
          exact .type
        · cases items with
          | none => cases h
          | some inner =>
            cases List.mem_singleton.1 h
            exact .items
    · simp only [ListConstraints.toEntries, List.mem_append] at h
      rcases h with (h | h) | h
      · exact .of_scalar_entry .primaryKey h rfl
      · exact .of_scalar_entry .minLength h rfl
      · exact .of_scalar_entry .maxLength h rfl

/-! ### What stands under a key -/

theorem Written.eq_of_type (h : node.Written "type" document) :
    document = .string node.kind.name := by
  generalize hkey : "type" = key at h
  cases h with
  | type => rfl
  | scalar field => cases field <;> simp [ScalarField.key] at hkey
  | listed field => cases field <;> simp [ListField.key] at hkey
  | _ => simp at hkey

theorem Written.eq_of_keys (h : node.Written "keys" document) :
    ∃ a keys dynamicKeys other, node = .dict a (some keys) dynamicKeys other ∧
      document = .object (keyDocuments keys) := by
  generalize hkey : "keys" = key at h
  cases h with
  | keys => exact ⟨_, _, _, _, rfl, rfl⟩
  | scalar field => cases field <;> simp [ScalarField.key] at hkey
  | listed field => cases field <;> simp [ListField.key] at hkey
  | _ => simp at hkey

theorem Written.exists_inner (h : node.Written key document)
    (hkey : key = "dynamic_keys" ∨ key = "items") :
    ∃ inner ∈ node.children, document = inner.toDocument := by
  cases h with
  | dynamicKeys => exact ⟨_, by simp [children], rfl⟩
  | items => exact ⟨_, by simp [children], rfl⟩
  | scalar field => cases field <;> simp [ScalarField.key] at hkey
  | listed field => cases field <;> simp [ListField.key] at hkey
  | _ => simp at hkey

theorem keyDocuments_eq_map (keys : List (String × Node)) :
    keyDocuments keys = keys.map fun entry => (entry.1, entry.2.toDocument) := by
  induction keys with
  | nil => rfl
  | cons entry rest ih => rw [keyDocuments, ih, List.map_cons]

theorem declaredKind?_toEntries (node : Node) : declaredKind? node.toEntries = some node.kind := by
  have hmem : ("type", Document.string node.kind.name) ∈ node.toEntries := by
    cases node <;> simp [toEntries, toDocument, kind, Field.ofKind]
  cases hlookup : node.toEntries.lookup "type" with
  | none => exact absurd (List.mem_map_of_mem hmem) (Entries.lookup_eq_none_iff.1 hlookup)
  | some document =>
    rw [declaredKind?, hlookup, (written_of_mem (Entries.mem_of_lookup hlookup)).eq_of_type]
    cases node <;> rfl

theorem exists_of_mem_childDocuments (h : document ∈ childDocuments node.kind node.toEntries) :
    ∃ inner ∈ node.children, document = inner.toDocument := by
  have hfield : ∀ {name}, document ∈ (node.toEntries.lookup name).toList →
      name = "dynamic_keys" ∨ name = "items" →
      ∃ inner ∈ node.children, document = inner.toDocument := by
    intro name hmem
    exact (written_of_mem (Entries.mem_of_lookup (Option.mem_toList.1 hmem))).exists_inner
  unfold childDocuments at h
  split at h
  · rcases List.mem_append.1 h with h | h
    · obtain ⟨entry, hentry, rfl⟩ := List.mem_map.1 h
      obtain ⟨values, hlookup, hmem⟩ := mem_keyEntries.1 hentry
      obtain ⟨a, keys, dynamicKeys, other, rfl, hvalues⟩ :=
        (written_of_mem (Entries.mem_of_lookup hlookup)).eq_of_keys
      cases hvalues
      rw [keyDocuments_eq_map] at hmem
      obtain ⟨declared, hdeclared, rfl⟩ := List.mem_map.1 hmem
      exact ⟨declared.2, List.mem_append_left _ (List.mem_map_of_mem hdeclared), rfl⟩
    · exact hfield h (.inl rfl)
  · exact hfield h (.inr rfl)
  · cases h

end Node

namespace MetaSchema

variable {node : Node} {maxDepth depth room : Nat}

theorem allows_type (kind : Kind) : Allows kind "type" (.string kind.name) := by
  cases kind <;> exact ⟨_, rfl, conforms_nameRule_iff.2 (by decide)⟩

theorem conforms_object (entries : Entries Document) :
    Conforms Formats.builtin (.dict .empty none none (some true)) none (.object entries) := by
  exact .dict (by simp) (by simp) (by simp) (by simp)

theorem fieldsLegal_toEntries (h : node.FieldsLawful) (hreferences : node.ReferenceLawful) :
    FieldsLegal node.kind node.toEntries := by
  intro key value hlookup
  cases Node.written_of_mem (Entries.mem_of_lookup hlookup) with
  | reference hreference => exact hreferences _ hreference
  | type => exact allows_type node.kind
  | scalar field hvalue => exact h.scalar field value hvalue
  | listed field hvalues => exact h.listed field _ hvalues
  | keys =>
    refine ⟨_, rfl, .dict (by simp) (by simp) ?_ (by simp)⟩
    intro key value hmem _ rule hrule
    cases hrule
    rw [Node.keyDocuments_eq_map] at hmem
    obtain ⟨entry, -, heq⟩ := List.mem_map.1 hmem
    cases heq
    rw [Node.toDocument_eq]
    exact conforms_object _
  | dynamicKeys =>
    rw [Node.toDocument_eq]
    exact ⟨_, rfl, conforms_object _⟩
  | items =>
    rw [Node.toDocument_eq]
    exact ⟨_, rfl, conforms_object _⟩

/-- A lawful node with references of the right form is written as a legal document. -/
theorem legal_toDocument_of_referenceLawful (h : node.Lawful)
    (hreferences : node.Everywhere Node.ReferenceLawful) (hfits : node.FitsWithin room)
    (hroom : room + depth = maxDepth + 1) : Legal maxDepth depth node.toDocument := by
  induction room generalizing depth node with
  | zero => exact hfits.elim
  | succ room ih =>
    rw [Node.toDocument_eq]
    refine .node (by omega) node.declaredKind?_toEntries
      (fieldsLegal_toEntries h.fields hreferences.here) ?_
    intro inner hinner
    obtain ⟨child, hchild, hdocument⟩ := Node.exists_of_mem_childDocuments hinner
    rw [hdocument]
    exact ih (h.of_mem_children hchild) (hreferences.of_mem_children hchild)
      (hfits child hchild) (by omega)

theorem legal_toDocument (h : node.Lawful) (hplain : node.references = [])
    (hfits : node.FitsWithin room) (hroom : room + depth = maxDepth + 1) :
    Legal maxDepth depth node.toDocument :=
  legal_toDocument_of_referenceLawful h (Node.everywhere_referenceLawful hplain) hfits hroom

end MetaSchema

end DataSchema
