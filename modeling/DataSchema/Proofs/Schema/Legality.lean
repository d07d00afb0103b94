import DataSchema.Proofs.Schema.LegalRoot

/-!
# Extensions stay legal

Before an extended schema is resolved, the merged node is written and checked as if it had
been loaded. That check always passes. What is read from a legal document is lawful, its
references have the form of references, and its tree is no higher than the document is deep;
merging keeps all three, and a node with these three properties is written as a legal
document, although a text of its own was perhaps never checked: with short names of kinds,
without null, and with the values of both lists.
-/

namespace DataSchema

variable {maxDepth : Nat}

namespace Node

variable {node base overlay merged : Node}

/-- What a node has in common with all nodes that are read from documents that
are legal within a depth. -/
structure Legitimate (maxDepth : Nat) (node : Node) : Prop where
  lawful : node.Lawful
  references : node.Everywhere ReferenceLawful
  fits : node.FitsWithin (maxDepth + 1)

theorem Legitimate.of_ensure {document : Document}
    (h : MetaSchema.ensure maxDepth document = .ok ()) (hread : ofDocument? document = some node) :
    node.Legitimate maxDepth := by
  have hlegal : MetaSchema.Legal maxDepth 0 document := MetaSchema.ensure_eq_ok_iff.1 h
  exact ⟨hlegal.lawful hread, hlegal.referenceLawful hread, hlegal.fitsWithin hread⟩

theorem Legitimate.extend {path : Path} (hbase : base.Legitimate maxDepth)
    (hoverlay : overlay.Legitimate maxDepth) (h : base.extend overlay path = .ok merged) :
    merged.Legitimate maxDepth := by
  have hmerged : base.merged? .baseFirst overlay = some merged := merge_eq_ok_iff.1 h
  constructor
  · exact hbase.lawful.merged? hoverlay.lawful hmerged
  · exact hbase.references.merged? ReferenceLawful.merged? hoverlay.references hmerged
  · exact hbase.fits.merged? hoverlay.fits hmerged

theorem Legitimate.ensure_toDocument (h : node.Legitimate maxDepth) :
    MetaSchema.ensure maxDepth node.toDocument = .ok () :=
  MetaSchema.ensure_eq_ok_iff.2 (MetaSchema.legal_toDocument_of_referenceLawful h.lawful
    h.references h.fits rfl)

end Node

theorem Loaded.legitimate_source {schema : Schema} (h : Loaded schema) :
    schema.source.Legitimate schema.loader.maxDepth := by
  induction h with
  | load hload =>
    obtain ⟨hloader, hensure, hread, -⟩ := Loader.of_load hload
    exact hloader ▸ .of_ensure hensure hread
  | extend _ hextend ih =>
    obtain ⟨hloader, hensure, ⟨fragment, hread, hmerge⟩, -⟩ := Schema.of_extend hextend
    exact hloader ▸ ih.extend (.of_ensure hensure hread) hmerge

/-- Where a fragment is legal and goes over the node as written, and the merged node is legal as
well, extending a schema is building the merged node. -/
theorem Schema.extend_eq_build {schema : Schema} {document : Document} {fragment merged : Node}
    (hensure : MetaSchema.ensure schema.loader.maxDepth document = .ok ())
    (hread : Node.ofDocument? document = some fragment)
    (hmerge : schema.source.extend fragment [] = .ok merged)
    (hmerged : MetaSchema.ensure schema.loader.maxDepth merged.toDocument = .ok ()) :
    schema.extend document = schema.loader.build merged := by
  rw [Schema.extend, hensure, Loader.read_eq_ok_iff.2 hread]
  change ((schema.source.extend fragment []).mapError _ >>= fun merged => _) = _
  rw [hmerge]
  change (MetaSchema.ensure _ merged.toDocument >>= fun _ => _) = _
  rw [hmerged]
  rfl

/-- However a schema was loaded and extended, the node as written is written as a legal document. A
legal fragment that merges into it gives a legal document again: the second check of an extension
never fails, and nothing is left but to resolve the merged node. -/
theorem Loaded.ensure_source {schema : Schema} (h : Loaded schema) :
    MetaSchema.ensure schema.loader.maxDepth schema.source.toDocument = .ok () ∧
    ∀ document fragment merged, MetaSchema.ensure schema.loader.maxDepth document = .ok () →
      Node.ofDocument? document = some fragment → schema.source.extend fragment [] = .ok merged →
      MetaSchema.ensure schema.loader.maxDepth merged.toDocument = .ok () ∧
      schema.extend document = schema.loader.build merged := by
  refine ⟨h.legitimate_source.ensure_toDocument,
    fun document fragment merged hensure hread hmerge => ?_⟩
  have hmerged : merged.Legitimate schema.loader.maxDepth :=
    h.legitimate_source.extend (.of_ensure hensure hread) hmerge
  exact ⟨hmerged.ensure_toDocument,
    Schema.extend_eq_build hensure hread hmerge hmerged.ensure_toDocument⟩

def looserHostDocument : Document :=
  .object [("type", .string "dict"), ("description", .null), ("keys", .object [
    ("host", .object [("$ref", .string "words#/keys/name"), ("type", .string "string"),
      ("valid_values", .array [.string "alpha"])]),
    ("port", .object [("type", .string "integer"), ("convert_types", .array [.string "string"])])])]

/-- Extending the host fails, but only because the store has no such fragment. -/
theorem Loaded.ensure_source_hosts : ∃ schema fragment merged error, Loaded schema ∧
    MetaSchema.ensure schema.loader.maxDepth schema.source.toDocument = .ok () ∧
    MetaSchema.ensure schema.loader.maxDepth looserHostDocument = .ok () ∧
    Node.ofDocument? looserHostDocument = some fragment ∧
    schema.source.extend fragment [] = .ok merged ∧
    MetaSchema.ensure schema.loader.maxDepth merged.toDocument = .ok () ∧
    schema.extend looserHostDocument = schema.loader.build merged ∧
    schema.loader.build merged = .error error := by
  have hrun : (Loader.withWords.load hostDocument).toOption.any (fun schema =>
      (Node.ofDocument? looserHostDocument).any fun fragment =>
        (schema.source.extend fragment []).toOption.any fun merged =>
        !(schema.loader.build merged).isOk) = true := by decide +kernel
  have hensure : MetaSchema.ensure defaultMaxDepth looserHostDocument = .ok () := by decide +kernel
  obtain ⟨schema, hload, htest⟩ := exists_ok_of_any hrun
  obtain ⟨fragment, hread, htest⟩ := (Option.any_eq_true _ _).1 htest
  obtain ⟨merged, hmerge, htest⟩ := exists_ok_of_any htest
  have hloader : schema.loader = Loader.withWords := (Loader.of_load hload).1
  rw [← show schema.loader.maxDepth = defaultMaxDepth by rw [hloader]; rfl] at hensure
  obtain ⟨hsource, hextend⟩ := (Loaded.load hload).ensure_source
  obtain ⟨hmerged, hbuild⟩ := hextend _ _ _ hensure hread hmerge
  cases hfails : schema.loader.build merged with
  | error error =>
    exact ⟨schema, fragment, merged, error, .load hload, hsource, hensure, hread, hmerge, hmerged,
      hbuild, hfails⟩
  | ok extended =>
    rw [hfails] at htest
    cases htest

end DataSchema
