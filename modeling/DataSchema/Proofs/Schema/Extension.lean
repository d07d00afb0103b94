import DataSchema.Proofs.Resolution.Extension
import DataSchema.Proofs.Schema.WellFormed

/-!
# Extending a schema and extending its root

A schema is extended as it was written, and its references are resolved again. A fragment that
brings no references of its own might as well have been laid over the resolved root: that succeeds
whenever the extension does, and gives the root of the extended schema, listed values aside, whose
order tells which of the two merges came first.
-/

namespace DataSchema

open Resolution

variable {schema extended : Schema}

theorem Loaded.resolves (h : Loaded schema) : Resolves schema.loader.surroundings true
    (schema.loader.surroundings.maxDepth + 1) [] schema.source schema.root :=
  Node.exists_resolve_iff.1 ⟨schema.patterns, h.resolve_source⟩

theorem Schema.extend_eq_ok {document : Document} {fragment : Node}
    (hread : Node.ofDocument? document = some fragment)
    (h : schema.extend document = .ok extended) :
    extended.loader = schema.loader ∧ schema.source.merged? .baseFirst fragment =
      some extended.source := by
  obtain ⟨hloader, -, ⟨overlay, hoverlay, hmerge⟩, -⟩ := Schema.of_extend h
  cases hread.symm.trans hoverlay
  exact ⟨hloader, Node.merge_eq_ok_iff.1 hmerge⟩

/-- Extension commutes with resolution: a fragment without references that extends a
schema goes over its root as well, and gives the root of the extended schema up to the
order of listed values. -/
theorem WellLoaded.extend_root_alike {document : Document} {fragment : Node} (h : WellLoaded schema)
    (hdocument : document.WellFormed) (hread : Node.ofDocument? document = some fragment)
    (hreferences : fragment.hasReferences = false)
    (hextend : schema.extend document = .ok extended) :
    ∃ merged, schema.root.extend fragment [] = .ok merged ∧ merged.Alike extended.root := by
  have hextended : WellLoaded extended := .extend h hdocument hextend
  obtain ⟨hloader, hmerged⟩ := Schema.extend_eq_ok hread hextend
  obtain ⟨hstore, hsource, -⟩ := h.wellFormed
  obtain ⟨-, hsource', -⟩ := hextended.wellFormed
  have hresolves := h.loaded.resolves
  have hresolves' := hextended.loaded.resolves
  rw [hloader] at hresolves'
  have hfragment : fragment.WellFormed := Node.wellFormed_of_ofDocument? hdocument hread
  obtain ⟨merged, hroot, halike⟩ := hresolves.exists_merged? hstore hsource hsource' hfragment
    (Node.noReferences_of_hasReferences hreferences) hmerged (.refl _) hresolves'
  exact ⟨merged, Node.merge_eq_ok_iff.2 hroot, halike⟩

def shortHostDocument : Document :=
  .object [("type", .string "dict"), ("keys", .object [
    ("host", .object [("type", .string "str"), ("max_length", .int 8),
      ("valid_values", .array [.string "alpha", .string "beta"])]),
    ("port", .object [("type", .string "int"), ("min", .int 1)])])]

/-- The host is a reference as written, and a word once it is resolved. -/
theorem WellLoaded.extend_root_alike_hosts : ∃ schema extended fragment merged,
    WellLoaded schema ∧ schema.source.hasReferences = true ∧
    Node.ofDocument? shortHostDocument = some fragment ∧ fragment.hasReferences = false ∧
    schema.extend shortHostDocument = .ok extended ∧ schema.root.extend fragment [] = .ok merged ∧
    merged.Alike extended.root := by
  have hrun : (Loader.withWords.load hostDocument).toOption.any (fun schema =>
      schema.source.hasReferences &&
        ((schema.extend shortHostDocument).toOption.any fun _ => true) &&
      (Node.ofDocument? shortHostDocument).any fun fragment => !fragment.hasReferences) = true := by
    decide +kernel
  have hstore : Loader.withWords.store.WellFormed := by
    simp [Store.WellFormed, Loader.withWords, Document.WellFormed, Document.WellFormedEntries]
  have hhost : hostDocument.WellFormed := by
    simp [hostDocument, Document.WellFormed, Document.WellFormedEntries]
  have hshort : shortHostDocument.WellFormed := by
    simp [shortHostDocument, Document.WellFormed, Document.WellFormedEntries,
      Document.WellFormedElements]
  obtain ⟨schema, hload, htest⟩ := exists_ok_of_any hrun
  obtain ⟨htest, hfragment⟩ := Bool.and_eq_true_iff.1 htest
  obtain ⟨hsource, hextends⟩ := Bool.and_eq_true_iff.1 htest
  obtain ⟨extended, hextend, -⟩ := exists_ok_of_any hextends
  obtain ⟨fragment, hread, hreferences⟩ := (Option.any_eq_true _ _).1 hfragment
  have hloaded : WellLoaded schema := .load hstore hhost hload
  have hreferences : fragment.hasReferences = false := by simpa using hreferences
  obtain ⟨merged, hmerged, halike⟩ := hloaded.extend_root_alike hshort hread hreferences hextend
  exact ⟨schema, extended, fragment, merged, hloaded, hsource, hread, hreferences, hextend,
    hmerged, halike⟩

end DataSchema
