import DataSchema.Proofs.Node.Rewriting
import DataSchema.Proofs.Resolution.Everywhere
import DataSchema.Proofs.Schema.Loaded
import DataSchema.Proofs.Store.Fragments

/-!
# Schemas are read back as they were written

Nodes come from documents, and merging and resolution make new nodes of them. Whatever was done to a
node, writing it and reading the result gives the same node again, with its keys in the same order.
So writing what was read is done once and for all: a second time it changes nothing.
-/

namespace DataSchema

namespace Node

/-- Nodes that are read from documents, and those that merging and resolution make of them. -/
inductive Derived : Node → Prop
  | read {document node} (h : ofDocument? document = some node) : Derived node
  | extend {base overlay path merged} (hbase : Derived base) (hoverlay : Derived overlay)
      (h : base.extend overlay path = .ok merged) : Derived merged
  | override {fragment own path merged} (hfragment : Derived fragment) (hown : Derived own)
      (h : fragment.override own path = .ok merged) : Derived merged
  | resolve {node around result patterns} (hnode : Derived node)
      (h : node.resolve around = .ok (result, patterns)) :
      Derived result

theorem Derived.readable {node : Node} (h : node.Derived) : node.Everywhere FieldsReadable := by
  induction h with
  | read h => exact everywhere_fieldsReadable h
  | extend _ _ h ihbase ihoverlay =>
    exact ihbase.merged? fieldsReadable_ofFields.merged? ihoverlay (merge_eq_ok_iff.1 h)
  | override _ _ h ihfragment ihown =>
    exact ihfragment.merged? fieldsReadable_ofFields.merged? ihown (merge_eq_ok_iff.1 h)
  | @resolve _ around _ patterns _ h ih =>
    have hfragments : ∀ reference, True → ∀ fragment, around.store.fragment reference =
        .ok fragment →
        fragment.Everywhere FieldsReadable ∧ ∀ reference ∈ fragment.references, True := by
      intro reference _ fragment hfragment
      obtain ⟨_, _, _, -, -, -, hread⟩ := Store.fragment_eq_ok_iff.1 hfragment
      exact ⟨everywhere_fieldsReadable hread, fun _ _ => trivial⟩
    exact (exists_resolve_iff.1 ⟨patterns, h⟩).everywhere fieldsReadable_ofFields hfragments ih
      fun _ _ => trivial

/-- Every node that comes from documents by merging and resolution is read back as it is written. A
document that it is read from is written with the fields of the kind, in their order and without
null; names of kinds become short, the nodes inside are written in the same way, and nothing else
changes. Doing so again changes nothing. -/
theorem Derived.ofDocument?_toDocument {node : Node} (h : node.Derived) :
    ofDocument? node.toDocument = some node ∧ node.toDocument.rewritten? = some node.toDocument ∧
    ∀ document, ofDocument? document = some node → ∃ entries written, document = .object entries ∧
      document.rewritten? = some (.object written) ∧
      (written.map Prod.fst).Sublist node.kind.fieldNames ∧
      ∀ key, written.lookup key =
        if key ∈ node.kind.fieldNames then (entries.lookup key).bind (Field.rewritten? key)
          else none := by
  have hback := h.readable.read_toDocument
  refine ⟨hback, rewritten?_of_read hback, fun document hread => ?_⟩
  cases document with
  | object entries =>
    refine ⟨entries, node.toEntries, rfl, ?_, node.map_fst_toEntries_sublist, ?_⟩
    · rw [rewritten?_of_read hread, toDocument_eq]
    · exact (ofDocument?_object_eq_some_iff.1 hread).lookup_toEntries
  | _ => cases hread

end Node

theorem Loaded.derived {schema : Schema} (h : Loaded schema) :
    schema.source.Derived ∧ schema.root.Derived := by
  have hsource : schema.source.Derived := by
    induction h with
    | load hload =>
      obtain ⟨-, -, hread, -⟩ := Loader.of_load hload
      exact .read hread
    | extend _ hextend ih =>
      obtain ⟨-, -, ⟨fragment, hread, hmerge⟩, -⟩ := Schema.of_extend hextend
      exact .extend ih (.read hread) hmerge
  exact ⟨hsource, .resolve hsource h.resolve_source⟩

/-- The port again, with long names of kinds, a field that is null and one
that dicts do not have. -/
def loosePortDocument : Document :=
  .object [("required", .null), ("type", .string "dict"), ("min", .int 3), ("keys", .object [
    ("port", .object [("type", .string "integer"), ("min", .int 1),
      ("convert_types", .array [.string "string", .string "bool"])])])]

/-- A loaded host is extended by a port; the loose port is read by itself. -/
theorem Node.Derived.ofDocument?_toDocument_hosts :
    ∃ port root entries, ofDocument? loosePortDocument = some port ∧
    root.Derived ∧ root.kind = .dict ∧ ofDocument? root.toDocument = some root ∧
    loosePortDocument.rewritten? = some (.object entries) ∧ entries.lookup "required" = none ∧
    entries.lookup "min" = none ∧
    entries.lookup "keys" =
      some (.object [("port", .object [("convert_types", .array [.string "str", .string "bool"]),
      ("type", .string "int"), ("min", .int 1)])]) := by
  have hrun : (Loader.withWords.load hostDocument >>= fun schema =>
        schema.extend portDocument).toOption.any
      (fun schema => (ofDocument? loosePortDocument).any fun port => schema.root.kind = .dict &&
        port.kind = .dict) = true := by
    decide +kernel
  obtain ⟨extended, hextended, htest⟩ := exists_ok_of_any hrun
  obtain ⟨schema, hload, hextend⟩ := bind_eq_ok.1 hextended
  obtain ⟨port, hport, htest⟩ := (Option.any_eq_true _ _).1 htest
  obtain ⟨hkind, hdict⟩ := Bool.and_eq_true_iff.1 htest
  have hderived : extended.root.Derived := (Loaded.extend (.load hload) hextend).derived.2
  obtain ⟨hback, -, -⟩ := hderived.ofDocument?_toDocument
  obtain ⟨-, -, hwritten⟩ := (Derived.read hport).ofDocument?_toDocument
  obtain ⟨entries, written, hobject, hrewritten, -, hlookup⟩ := hwritten _ hport
  cases hobject
  rw [of_decide_eq_true hdict] at hlookup
  refine ⟨port, extended.root, written, hport, hderived, of_decide_eq_true hkind, hback,
    hrewritten, ?_, ?_, ?_⟩
  · rw [hlookup]
    decide +kernel
  · rw [hlookup]
    decide +kernel
  · rw [hlookup]
    decide +kernel

end DataSchema
