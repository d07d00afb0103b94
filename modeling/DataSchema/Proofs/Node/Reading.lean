import DataSchema.Node.Written
import DataSchema.Proofs.Node.References

/-!
# What a node is read from

A node is read field by field, and each field is looked up on its own. The nodes directly below come
from documents inside, so statements about everything that can be read from a document are proved by
induction on the documents of nodes. The texts of a document bound the references of all nodes that
can be read anywhere in it.
-/

namespace DataSchema

variable {entries : Entries Document} {node : Node}

/-! ### Fields -/

namespace Field

variable {α : Type} {read : Document → Option α} {key : String}

theorem optional_of_lookup_eq_none (h : entries.lookup key = none) :
    Field.optional read key entries = some none := by
  rw [Field.optional, h]

theorem optional_of_lookup_eq_null (h : entries.lookup key = some .null) :
    Field.optional read key entries = some none := by
  rw [Field.optional, h]

theorem optional_of_lookup_eq_some {value : Document} (h : entries.lookup key = some value)
    (hnull : value ≠ .null) :
    Field.optional read key entries = (read value).map some := by
  rw [Field.optional, h]
  cases value <;> first | rfl | exact absurd rfl hnull

theorem optional_eq_some_some {a : α} (h : Field.optional read key entries = some (some a)) :
    ∃ value, entries.lookup key = some value ∧ read value = some a := by
  cases hlookup : entries.lookup key with
  | none =>
    rw [optional_of_lookup_eq_none hlookup] at h
    cases h
  | some value =>
    by_cases hnull : value = .null
    · subst hnull
      rw [optional_of_lookup_eq_null hlookup] at h
      cases h
    · rw [optional_of_lookup_eq_some hlookup hnull] at h
      obtain ⟨b, hread, hb⟩ := Option.map_eq_some_iff.1 h
      cases hb
      exact ⟨value, rfl, hread⟩

end Field

section

open DataSchema.Field

theorem Attributes.ofEntries?_eq_some_iff {a : Attributes} : ofEntries? entries = some a ↔
    optional text? "$ref" entries = some a.reference ∧
    optional flag? "required" entries = some a.required ∧
    optional some "default" entries = some a.fallback ∧
    optional text? "description" entries = some a.description ∧
    optional text? "display_name" entries = some a.displayName ∧
    optional (listOf kind?) "convert_types" entries = some a.convertTypes := by
  constructor
  · intro h
    obtain ⟨_, hreference, h⟩ := Option.bind_eq_some_iff.1 h
    obtain ⟨_, hrequired, h⟩ := Option.bind_eq_some_iff.1 h
    obtain ⟨_, hfallback, h⟩ := Option.bind_eq_some_iff.1 h
    obtain ⟨_, hdescription, h⟩ := Option.bind_eq_some_iff.1 h
    obtain ⟨_, hdisplayName, h⟩ := Option.bind_eq_some_iff.1 h
    obtain ⟨_, hconvertTypes, h⟩ := Option.bind_eq_some_iff.1 h
    cases h
    exact ⟨hreference, hrequired, hfallback, hdescription, hdisplayName, hconvertTypes⟩
  · simp +contextual [ofEntries?]

theorem TextConstraints.ofEntries?_eq_some_iff {c : TextConstraints} : ofEntries? entries = some c ↔
    optional (listOf text?) "valid_values" entries = some c.validValues ∧
    optional length? "min_length" entries = some c.minLength ∧
    optional length? "max_length" entries = some c.maxLength ∧
    optional text? "pattern" entries = some c.pattern ∧
    optional text? "format" entries = some c.format ∧
    optional flag? "convert_to_lower_case" entries = some c.convertToLowerCase := by
  constructor
  · intro h
    obtain ⟨_, hvalidValues, h⟩ := Option.bind_eq_some_iff.1 h
    obtain ⟨_, hminLength, h⟩ := Option.bind_eq_some_iff.1 h
    obtain ⟨_, hmaxLength, h⟩ := Option.bind_eq_some_iff.1 h
    obtain ⟨_, hpattern, h⟩ := Option.bind_eq_some_iff.1 h
    obtain ⟨_, hformat, h⟩ := Option.bind_eq_some_iff.1 h
    obtain ⟨_, hlowerCase, h⟩ := Option.bind_eq_some_iff.1 h
    cases h
    exact ⟨hvalidValues, hminLength, hmaxLength, hpattern, hformat, hlowerCase⟩
  · simp +contextual [ofEntries?]

theorem IntConstraints.ofEntries?_eq_some_iff {c : IntConstraints} : ofEntries? entries = some c ↔
    optional (listOf word?) "valid_values" entries = some c.validValues ∧
    optional word? "min" entries = some c.min ∧ optional word? "max" entries = some c.max := by
  constructor
  · intro h
    obtain ⟨_, hvalidValues, h⟩ := Option.bind_eq_some_iff.1 h
    obtain ⟨_, hmin, h⟩ := Option.bind_eq_some_iff.1 h
    obtain ⟨_, hmax, h⟩ := Option.bind_eq_some_iff.1 h
    cases h
    exact ⟨hvalidValues, hmin, hmax⟩
  · simp +contextual [ofEntries?]

theorem BoolConstraints.ofEntries?_eq_some_iff {c : BoolConstraints} : ofEntries? entries = some c ↔
    optional (listOf flag?) "valid_values" entries = some c.validValues := by
  constructor
  · intro h
    obtain ⟨_, hvalidValues, h⟩ := Option.bind_eq_some_iff.1 h
    cases h
    exact hvalidValues
  · simp +contextual [ofEntries?]

theorem ListConstraints.ofEntries?_eq_some_iff {c : ListConstraints} : ofEntries? entries = some c ↔
    optional text? "primary_key" entries = some c.primaryKey ∧
    optional length? "min_length" entries = some c.minLength ∧
    optional length? "max_length" entries = some c.maxLength := by
  constructor
  · intro h
    obtain ⟨_, hprimaryKey, h⟩ := Option.bind_eq_some_iff.1 h
    obtain ⟨_, hminLength, h⟩ := Option.bind_eq_some_iff.1 h
    obtain ⟨_, hmaxLength, h⟩ := Option.bind_eq_some_iff.1 h
    cases h
    exact ⟨hprimaryKey, hminLength, hmaxLength⟩
  · simp +contextual [ofEntries?]

end

namespace Node

def ofKeys? : Document → Option (List (String × Node))
  | .object entries => keyNodes? entries
  | _ => none

theorem nodeField?_eq_optional (name : String) (entries : Entries Document) :
    nodeField? name entries = Field.optional ofDocument? name entries := by
  induction entries with
  | nil => rfl
  | cons entry rest ih =>
    obtain ⟨key, value⟩ := entry
    rw [nodeField?, ih, Field.optional, Field.optional, List.lookup_cons]
    cases name == key with
    | false => rfl
    | true => cases value <;> rfl

theorem keysField?_eq_optional (entries : Entries Document) :
    keysField? entries = Field.optional ofKeys? "keys" entries := by
  induction entries with
  | nil => rfl
  | cons entry rest ih =>
    obtain ⟨key, value⟩ := entry
    rw [keysField?.eq_def]
    dsimp only
    rw [ih, Field.optional, Field.optional, List.lookup_cons]
    cases "keys" == key with
    | false => rfl
    | true => cases value <;> rfl

def declaredKind? (entries : Entries Document) : Option Kind :=
  (entries.lookup "type").bind Field.kind?

/-- The object has the fields that the node is made of. -/
inductive ReadsAs (entries : Entries Document) : Node → Prop
  | str {a c} (hkind : declaredKind? entries = some .str)
      (ha : Attributes.ofEntries? entries = some a)
      (hc : TextConstraints.ofEntries? entries = some c) : ReadsAs entries (.str a c)
  | int {a c} (hkind : declaredKind? entries = some .int)
      (ha : Attributes.ofEntries? entries = some a)
      (hc : IntConstraints.ofEntries? entries = some c) : ReadsAs entries (.int a c)
  | bool {a c} (hkind : declaredKind? entries = some .bool)
      (ha : Attributes.ofEntries? entries = some a)
      (hc : BoolConstraints.ofEntries? entries = some c) : ReadsAs entries (.bool a c)
  | dict {a keys dynamicKeys other} (hkind : declaredKind? entries = some .dict)
      (ha : Attributes.ofEntries? entries = some a) (hkeys : Field.optional ofKeys? "keys" entries =
        some keys)
      (hdynamic : Field.optional ofDocument? "dynamic_keys" entries = some dynamicKeys)
      (hother : Field.optional Field.flag? "allow_other_keys" entries = some other) :
      ReadsAs entries (.dict a keys dynamicKeys other)
  | list {a items c} (hkind : declaredKind? entries = some .list)
      (ha : Attributes.ofEntries? entries = some a)
      (hitems : Field.optional ofDocument? "items" entries = some items)
      (hc : ListConstraints.ofEntries? entries = some c) : ReadsAs entries (.list a items c)

theorem ofDocument?_object_eq_some_iff :
    ofDocument? (.object entries) = some node ↔ ReadsAs entries node := by
  rw [ofDocument?]
  constructor
  · intro h
    obtain ⟨kind, hkind, h⟩ := Option.bind_eq_some_iff.1 h
    obtain ⟨a, ha, h⟩ := Option.bind_eq_some_iff.1 h
    cases kind with
    | str =>
      obtain ⟨c, hc, h⟩ := Option.bind_eq_some_iff.1 h
      cases h
      exact .str hkind ha hc
    | int =>
      obtain ⟨c, hc, h⟩ := Option.bind_eq_some_iff.1 h
      cases h
      exact .int hkind ha hc
    | bool =>
      obtain ⟨c, hc, h⟩ := Option.bind_eq_some_iff.1 h
      cases h
      exact .bool hkind ha hc
    | dict =>
      obtain ⟨keys, hkeys, h⟩ := Option.bind_eq_some_iff.1 h
      obtain ⟨dynamicKeys, hdynamic, h⟩ := Option.bind_eq_some_iff.1 h
      obtain ⟨other, hother, h⟩ := Option.bind_eq_some_iff.1 h
      cases h
      exact .dict hkind ha (keysField?_eq_optional entries ▸ hkeys)
        (nodeField?_eq_optional _ entries ▸ hdynamic) hother
    | list =>
      obtain ⟨items, hitems, h⟩ := Option.bind_eq_some_iff.1 h
      obtain ⟨c, hc, h⟩ := Option.bind_eq_some_iff.1 h
      cases h
      exact .list hkind ha (nodeField?_eq_optional _ entries ▸ hitems) hc
  · intro h
    have hkind : declaredKind? entries = some node.kind := by cases h <;> assumption
    have ha : Attributes.ofEntries? entries = some node.attributes := by cases h <;> assumption
    refine Option.bind_eq_some_iff.2 ⟨_, hkind, Option.bind_eq_some_iff.2 ⟨_, ha, ?_⟩⟩
    cases h with
    | str _ _ hc => exact Option.bind_eq_some_iff.2 ⟨_, hc, rfl⟩
    | int _ _ hc => exact Option.bind_eq_some_iff.2 ⟨_, hc, rfl⟩
    | bool _ _ hc => exact Option.bind_eq_some_iff.2 ⟨_, hc, rfl⟩
    | dict _ _ hkeys hdynamic hother =>
      refine Option.bind_eq_some_iff.2 ⟨_, (keysField?_eq_optional entries).trans hkeys, ?_⟩
      refine Option.bind_eq_some_iff.2 ⟨_, (nodeField?_eq_optional _ entries).trans hdynamic, ?_⟩
      exact Option.bind_eq_some_iff.2 ⟨_, hother, rfl⟩
    | list _ _ hitems hc =>
      refine Option.bind_eq_some_iff.2 ⟨_, (nodeField?_eq_optional _ entries).trans hitems, ?_⟩
      exact Option.bind_eq_some_iff.2 ⟨_, hc, rfl⟩

theorem ReadsAs.kind (h : ReadsAs entries node) : declaredKind? entries = some node.kind := by
  cases h <;> assumption

theorem ReadsAs.attributes (h : ReadsAs entries node) :
    Attributes.ofEntries? entries = some node.attributes := by
  cases h <;> assumption

/-! ### Documents of nodes -/

def keyEntries (entries : Entries Document) : Entries Document :=
  match entries.lookup "keys" with
  | some (.object inner) => inner
  | _ => []

theorem mem_keyEntries {entry : String × Document} : entry ∈ keyEntries entries ↔
    ∃ values, entries.lookup "keys" = some (.object values) ∧ entry ∈ values := by
  unfold keyEntries
  split
  · rename_i values hvalues
    simp [hvalues]
  · rename_i hnot
    simp only [List.not_mem_nil, false_iff]
    exact fun h => h.elim fun values hvalues => hnot values hvalues.1

/-- The documents that the nodes directly below a node of a kind are read from. -/
def childDocuments (kind : Kind) (entries : Entries Document) : List Document :=
  match kind with
  | .dict => (keyEntries entries).map Prod.snd ++ (entries.lookup "dynamic_keys").toList
  | .list => (entries.lookup "items").toList
  | _ => []

theorem exists_of_mem_keyNodes? {keys : List (String × Node)} (h : keyNodes? entries = some keys) :
    ∀ inner ∈ keys.map Prod.snd, ∃ document ∈ entries.map Prod.snd, ofDocument? document =
      some inner := by
  induction entries generalizing keys with
  | nil =>
    cases h
    simp
  | cons entry rest ih =>
    rw [keyNodes?] at h
    obtain ⟨first, hfirst, h⟩ := Option.bind_eq_some_iff.1 h
    obtain ⟨others, hothers, h⟩ := Option.bind_eq_some_iff.1 h
    cases h
    rw [List.map_cons, List.map_cons, List.forall_mem_cons]
    refine ⟨⟨entry.2, by simp, hfirst⟩, fun inner hinner => ?_⟩
    obtain ⟨document, hdocument, hread⟩ := ih hothers inner hinner
    exact ⟨document, List.mem_cons_of_mem _ hdocument, hread⟩

theorem ReadsAs.exists_of_mem_children (h : ReadsAs entries node) {inner : Node}
    (hinner : inner ∈ node.children) :
    ∃ document ∈ childDocuments node.kind entries, ofDocument? document = some inner := by
  have hoptional : ∀ {name : String} {value : Option Node},
      Field.optional ofDocument? name entries = some value →
      ∀ inner ∈ value.toList, ∃ document ∈ (entries.lookup name).toList, ofDocument? document =
        some inner := by
    intro name value hvalue inner hinner
    cases Option.mem_toList.1 hinner
    obtain ⟨document, hlookup, hread⟩ := Field.optional_eq_some_some hvalue
    exact ⟨document, by simp [hlookup], hread⟩
  cases h with
  | str | int | bool => cases hinner
  | @dict _ keys _ _ _ _ hkeys hdynamic =>
    rcases List.mem_append.1 hinner with hinner | hinner
    · cases keys with
      | none => cases hinner
      | some keys =>
        obtain ⟨value, hlookup, hread⟩ := Field.optional_eq_some_some hkeys
        cases value with
        | object inner' =>
          obtain ⟨document, hdocument, hread⟩ := exists_of_mem_keyNodes? hread inner hinner
          obtain ⟨entry, hentry, rfl⟩ := List.mem_map.1 hdocument
          have hkey : entry ∈ keyEntries entries := mem_keyEntries.2 ⟨inner', hlookup, hentry⟩
          exact ⟨entry.2, List.mem_append_left _ (List.mem_map_of_mem hkey), hread⟩
        | _ => cases hread
    · obtain ⟨document, hdocument, hread⟩ := hoptional hdynamic inner hinner
      exact ⟨document, List.mem_append_right _ hdocument, hread⟩
  | list _ _ hitems => exact hoptional hitems inner hinner

theorem lookup_of_mem_childDocuments {kind : Kind} {inner : Document}
    (h : inner ∈ childDocuments kind entries) :
    (∃ name, entries.lookup name = some inner) ∨
      ∃ values name, entries.lookup "keys" = some (.object values) ∧ (name, inner) ∈ values := by
  cases kind with
  | str | int | bool => cases h
  | list => exact .inl ⟨"items", Option.mem_toList.1 h⟩
  | dict =>
    rcases List.mem_append.1 h with hkey | hother
    · obtain ⟨entry, hentry, rfl⟩ := List.mem_map.1 hkey
      obtain ⟨values, hvalues, hmem⟩ := mem_keyEntries.1 hentry
      exact .inr ⟨values, entry.1, hvalues, hmem⟩
    · exact .inl ⟨"dynamic_keys", Option.mem_toList.1 hother⟩

theorem sizeOf_lt_of_mem_childDocuments {kind : Kind} {inner : Document}
    (h : inner ∈ childDocuments kind entries) :
    sizeOf inner < sizeOf (Document.object entries) := by
  have hmem : ∀ {key : String} {value : Document} {entries : Entries Document},
      (key, value) ∈ entries →
      sizeOf value < sizeOf (Document.object entries) := by
    intro key value entries hentry
    have hpair := List.sizeOf_lt_of_mem hentry
    simp only [Prod.mk.sizeOf_spec] at hpair
    simp only [Document.object.sizeOf_spec]
    omega
  rcases lookup_of_mem_childDocuments h with ⟨name, hlookup⟩ | ⟨values, name, hkeys, hentry⟩
  · exact hmem (Entries.mem_of_lookup hlookup)
  · exact Nat.lt_trans (hmem hentry) (hmem (Entries.mem_of_lookup hkeys))

end Node

/-- The documents of the nodes directly below come first. -/
theorem Document.inductionOnNodes {motive : Document → Prop} (document : Document)
    (h : ∀ document, (∀ entries kind inner, document = .object entries →
      inner ∈ Node.childDocuments kind entries →
      motive inner) → motive document) : motive document := by
  induction hsize : sizeOf document using Nat.strongRecOn generalizing document with
  | ind size ih =>
    apply h
    rintro entries kind inner rfl hinner
    exact ih _ (hsize ▸ Node.sizeOf_lt_of_mem_childDocuments hinner) inner rfl

/-! ### Texts -/

namespace Document

mutual

/-- The texts that stand in a document as values. -/
def texts : Document → List String
  | .string text => [text]
  | .array elements => elementTexts elements
  | .object entries => entryTexts entries
  | _ => []

def elementTexts : List Document → List String
  | [] => []
  | element :: rest => element.texts ++ elementTexts rest

def entryTexts : List (String × Document) → List String
  | [] => []
  | (_, value) :: rest => value.texts ++ entryTexts rest

end

theorem texts_subset_of_mem {entry : String × Document} (h : entry ∈ entries) :
    entry.2.texts ⊆ (object entries).texts := by
  rw [texts]
  induction entries with
  | nil => cases h
  | cons first rest ih =>
    rw [entryTexts]
    rcases List.mem_cons.1 h with rfl | h
    · exact List.subset_append_left _ _
    · exact List.Subset.trans (ih h) (List.subset_append_right _ _)

theorem texts_subset_of_get? {document value : Document} {key : String}
    (h : document.get? key = some value) :
    value.texts ⊆ document.texts := by
  cases document with
  | object entries => exact texts_subset_of_mem (Entries.mem_of_lookup h)
  | _ => cases h

theorem texts_subset_of_mem_childDocuments {kind : Kind} {inner : Document}
    (h : inner ∈ Node.childDocuments kind entries) : inner.texts ⊆ (object entries).texts := by
  rcases Node.lookup_of_mem_childDocuments h with ⟨name, hlookup⟩ | ⟨values, name, hkeys, hentry⟩
  · exact texts_subset_of_mem (Entries.mem_of_lookup hlookup)
  · exact List.Subset.trans (texts_subset_of_mem hentry)
      (texts_subset_of_mem (Entries.mem_of_lookup hkeys))

end Document

theorem Attributes.reference_mem_texts {a : Attributes} {reference : String}
    (h : ofEntries? entries = some a) (hreference : a.reference = some reference) :
    reference ∈ (Document.object entries).texts := by
  have hfield := (ofEntries?_eq_some_iff.1 h).1
  rw [hreference] at hfield
  obtain ⟨document, hlookup, hread⟩ := Field.optional_eq_some_some hfield
  cases document with
  | string text =>
    cases hread
    exact Document.texts_subset_of_mem (Entries.mem_of_lookup hlookup) (by simp [Document.texts])
  | _ => cases hread

theorem Node.references_subset_texts {document : Document} (h : ofDocument? document = some node) :
    node.references ⊆ document.texts := by
  induction document using Document.inductionOnNodes generalizing node with
  | h document ih =>
    intro reference hreference
    cases document with
    | object entries =>
      have hreads := ofDocument?_object_eq_some_iff.1 h
      rcases mem_references.1 hreference with hhere | ⟨inner, hinner, hbelow⟩
      · exact Attributes.reference_mem_texts hreads.attributes hhere
      · obtain ⟨document, hdocument, hread⟩ := hreads.exists_of_mem_children hinner
        exact Document.texts_subset_of_mem_childDocuments hdocument
          (ih entries _ document rfl hdocument hread hbelow)
    | _ => cases h

end DataSchema
