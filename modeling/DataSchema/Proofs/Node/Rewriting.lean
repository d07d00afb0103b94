import DataSchema.Proofs.Node.RoundTrip

/-!
# Writing what was read

A node that was read from a document is written with the same fields. Those that the kind does not
have are gone, and so are those that were null; the others stand in the order of the kind. Their
values stay as they were, apart from the names of kinds, which become the short ones, and from the
nodes inside, which are written in the same way.
-/

namespace DataSchema

open DataSchema.Field

/-- The document of a node as the node is written. -/
def Document.rewritten? (document : Document) : Option Document :=
  (Node.ofDocument? document).map Node.toDocument

def Document.rewrittenKeys? : Document → Option Document
  | .object entries =>
    (entries.mapM fun (entry : String × Document) =>
      entry.2.rewritten?.map (entry.1, ·)).map .object
  | _ => none

namespace Field

variable {α : Type} {read : Document → Option α} {write : α → Document} {key : String}
  {entries : Entries Document} {value : Option α} {document : Document}

/-- How the value of a field changes: names of kinds become short, nodes are rewritten,
and everything else stays. -/
def rewrite : String → Document → Option Document
  | "type" => fun document => (kind? document).map ofKind
  | "convert_types" => fun document => (listOf kind? document).map (ofList ofKind)
  | "keys" => Document.rewrittenKeys?
  | "dynamic_keys" => Document.rewritten?
  | "items" => Document.rewritten?
  | _ => some

/-- What becomes of the value of a field; null means that the field is not set. -/
def rewritten? (key : String) (document : Document) : Option Document :=
  if document = .null then none else rewrite key document

theorem bind_rewritten? (h : Field.optional read key entries = some value)
    (hrewrite : ∀ document a, read document = some a → rewrite key document = some (write a)) :
    value.map write = (entries.lookup key).bind (rewritten? key) := by
  cases hlookup : entries.lookup key with
  | none =>
    rw [optional_of_lookup_eq_none hlookup] at h
    cases h
    rfl
  | some document =>
    by_cases hnull : document = .null
    · subst hnull
      rw [optional_of_lookup_eq_null hlookup] at h
      cases h
      rfl
    · rw [optional_of_lookup_eq_some hlookup hnull] at h
      obtain ⟨a, hread, rfl⟩ := Option.map_eq_some_iff.1 h
      rw [Option.bind_some, rewritten?, if_neg hnull, hrewrite document a hread, Option.map_some]

/-- A value stays where writing undoes reading. -/
theorem bind_rewritten?_of_plain (h : Field.optional read key entries = some value)
    (hplain : rewrite key = some)
    (hwrite : ∀ document a, read document = some a → write a = document) :
    value.map write = (entries.lookup key).bind (rewritten? key) :=
  bind_rewritten? h fun document a hread => by rw [hplain, hwrite document a hread]

end Field

namespace Node

variable {node : Node} {entries : Entries Document} {key : String}

theorem rewritten?_of_read {document : Document} (h : ofDocument? document = some node) :
    document.rewritten? = some node.toDocument := by
  rw [Document.rewritten?, h, Option.map_some]

theorem rewrittenKeys?_of_read {document : Document} {keys : List (String × Node)}
    (h : ofKeys? document = some keys) :
    document.rewrittenKeys? = some (writtenKeys keys) := by
  cases document with
  | object entries =>
    change keyNodes? entries = some keys at h
    rw [Document.rewrittenKeys?, writtenKeys, Option.map_eq_some_iff]
    refine ⟨_, ?_, rfl⟩
    induction entries generalizing keys with
    | nil =>
      cases h
      rfl
    | cons entry rest ih =>
      rw [keyNodes?] at h
      obtain ⟨first, hfirst, h⟩ := Option.bind_eq_some_iff.1 h
      obtain ⟨others, hothers, h⟩ := Option.bind_eq_some_iff.1 h
      cases h
      rw [List.mapM_cons, rewritten?_of_read hfirst, ih hothers]
      rfl
  | _ => cases h

theorem ReadsAs.attributes_rewritten (h : ReadsAs entries node) :
    ∀ field ∈ node.attributes.fields, field.2 =
      (entries.lookup field.1).bind (Field.rewritten? field.1) := by
  obtain ⟨hreference, hrequired, hfallback, hdescription, hdisplayName, hconvertTypes⟩ :=
    Attributes.ofEntries?_eq_some_iff.1 h.attributes
  simp only [Attributes.fields, List.forall_mem_cons, List.not_mem_nil, false_implies,
    implies_true, and_true]
  refine ⟨?_, ?_, ?_, ?_, ?_, ?_⟩
  · exact Field.bind_rewritten?_of_plain hreference rfl Field.string_of_text?
  · exact Field.bind_rewritten?_of_plain hrequired rfl Field.bool_of_flag?
  · exact Field.bind_rewritten?_of_plain hfallback rfl fun _ _ h => (Option.some.inj h).symm
  · exact Field.bind_rewritten?_of_plain hdescription rfl Field.string_of_text?
  · exact Field.bind_rewritten?_of_plain hdisplayName rfl Field.string_of_text?
  · refine Field.bind_rewritten? hconvertTypes fun document kinds hread => ?_
    exact Option.map_eq_some_iff.2 ⟨kinds, hread, rfl⟩

theorem ReadsAs.kindFields_rewritten (h : ReadsAs entries node) :
    ∀ field ∈ node.kindFields, field.2 =
      (entries.lookup field.1).bind (Field.rewritten? field.1) := by
  cases h with
  | str _ _ hc =>
    obtain ⟨hvalidValues, hminLength, hmaxLength, hpattern, hformat, hlowerCase⟩ :=
      TextConstraints.ofEntries?_eq_some_iff.1 hc
    simp only [kindFields, TextConstraints.fields, List.forall_mem_cons, List.not_mem_nil,
      false_implies, implies_true, and_true]
    refine ⟨?_, ?_, ?_, ?_, ?_, ?_⟩
    · exact Field.bind_rewritten?_of_plain hvalidValues rfl
        (Field.ofList_of_listOf Field.string_of_text?)
    · exact Field.bind_rewritten?_of_plain hminLength rfl Field.ofLength_of_length?
    · exact Field.bind_rewritten?_of_plain hmaxLength rfl Field.ofLength_of_length?
    · exact Field.bind_rewritten?_of_plain hpattern rfl Field.string_of_text?
    · exact Field.bind_rewritten?_of_plain hformat rfl Field.string_of_text?
    · exact Field.bind_rewritten?_of_plain hlowerCase rfl Field.bool_of_flag?
  | int _ _ hc =>
    obtain ⟨hvalidValues, hmin, hmax⟩ := IntConstraints.ofEntries?_eq_some_iff.1 hc
    simp only [kindFields, IntConstraints.fields, List.forall_mem_cons, List.not_mem_nil,
      false_implies, implies_true, and_true]
    refine ⟨?_, ?_, ?_⟩
    · exact Field.bind_rewritten?_of_plain hvalidValues rfl
        (Field.ofList_of_listOf Field.int_of_word?)
    · exact Field.bind_rewritten?_of_plain hmin rfl Field.int_of_word?
    · exact Field.bind_rewritten?_of_plain hmax rfl Field.int_of_word?
  | bool _ _ hc =>
    have hvalidValues := BoolConstraints.ofEntries?_eq_some_iff.1 hc
    simp only [kindFields, BoolConstraints.fields, List.forall_mem_cons, List.not_mem_nil,
      false_implies, implies_true, and_true]
    exact Field.bind_rewritten?_of_plain hvalidValues rfl
      (Field.ofList_of_listOf Field.bool_of_flag?)
  | dict _ _ hkeys hdynamic hother =>
    simp only [kindFields, List.forall_mem_cons, List.not_mem_nil, false_implies,
      implies_true, and_true]
    refine ⟨?_, ?_, ?_⟩
    · exact Field.bind_rewritten? hkeys fun _ _ => rewrittenKeys?_of_read
    · exact Field.bind_rewritten? hdynamic fun _ _ => rewritten?_of_read
    · exact Field.bind_rewritten?_of_plain hother rfl Field.bool_of_flag?
  | list _ _ hitems hc =>
    obtain ⟨hprimaryKey, hminLength, hmaxLength⟩ := ListConstraints.ofEntries?_eq_some_iff.1 hc
    simp only [kindFields, ListConstraints.fields, List.forall_mem_cons, List.not_mem_nil,
      false_implies, implies_true, and_true]
    refine ⟨?_, ?_, ?_, ?_⟩
    · exact Field.bind_rewritten? hitems fun _ _ => rewritten?_of_read
    · exact Field.bind_rewritten?_of_plain hprimaryKey rfl Field.string_of_text?
    · exact Field.bind_rewritten?_of_plain hminLength rfl Field.ofLength_of_length?
    · exact Field.bind_rewritten?_of_plain hmaxLength rfl Field.ofLength_of_length?

theorem ReadsAs.type_rewritten (h : ReadsAs entries node) :
    some (ofKind node.kind) = (entries.lookup "type").bind (Field.rewritten? "type") := by
  obtain ⟨document, hlookup, hread⟩ := Option.bind_eq_some_iff.1 h.kind
  have hnull : document ≠ .null := by
    rintro rfl
    cases hread
  rw [hlookup, Option.bind_some, Field.rewritten?, if_neg hnull]
  exact (Option.map_eq_some_iff.2 ⟨_, hread, rfl⟩).symm

/-- What stands under a key of a node that was read and written again. -/
theorem ReadsAs.lookup_toEntries (h : ReadsAs entries node) (key : String) :
    node.toEntries.lookup key =
      if key ∈ node.kind.fieldNames then (entries.lookup key).bind (Field.rewritten? key)
        else none := by
  have hfields : ∀ field ∈ node.fields, field.2 =
      (entries.lookup field.1).bind (Field.rewritten? field.1) := by
    rw [fields, List.forall_mem_append, List.forall_mem_cons]
    exact ⟨h.attributes_rewritten, h.type_rewritten, h.kindFields_rewritten⟩
  split
  · rename_i hname
    rw [← map_fst_fields] at hname
    obtain ⟨field, hfield, rfl⟩ := List.mem_map.1 hname
    rw [Node.lookup_toEntries hfield, hfields field hfield]
  · rename_i hname
    exact Entries.lookup_eq_none_iff.2 fun hmem =>
      hname (node.map_fst_toEntries_sublist.subset hmem)

end Node

end DataSchema
