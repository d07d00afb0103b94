import DataSchema.Proofs.MetaSchema.Legal
import DataSchema.Proofs.Resolution.DepthLimit

/-!
# Resolution reaches a fixed point

A resolved tree has no references left, and what a tree without references is resolved to does not
depend on the store: it is the tree itself, provided that the tree is not too high and passes the
checks of its nodes. A resolved tree has passed them, and a legal document is not too high, since
its nodes are counted in the same way as levels of the tree.
-/

namespace DataSchema

open Resolution

variable {node : Node} {store : Store} {formats : Formats} {limit : Nat}

theorem Node.not_tooDeep_of_legal {document : Document} (hlegal : MetaSchema.Legal limit 0 document)
    (hread : ofDocument? document = some node) (hplain : node.hasReferences = false) :
    ¬ TooDeep (node.resolve ⟨store, formats, limit⟩) := by
  have hempty : Patterns.Sound [] := by simp [Patterns.Sound]
  have hsettles : SettlesWithin ⟨store, formats, limit⟩ (limit + 1) [] node :=
    settlesWithin_of_fitsWithin (hasReferences_eq_false_iff.1 hplain) (hlegal.fitsWithin hread)
  exact hsettles.not_tooDeep [] hempty

/-- Resolving twice is resolving once, whatever the store holds the second time, and changes nothing
when there are no references to begin with. A node without references that is read from a legal
document is never too deep for the limit that the document was checked with. -/
theorem Node.resolve_resolve (node : Node) (store : Store) (formats : Formats) (limit : Nat) :
    (∀ result patterns, node.resolve ⟨store, formats, limit⟩ = .ok (result, patterns) →
      result.hasReferences = false ∧
      (∀ store', ∃ patterns', result.resolve ⟨store', formats, limit⟩ = .ok (result, patterns')) ∧
      (node.hasReferences = false → result = node)) ∧
    ∀ document, MetaSchema.ensure limit document = .ok () → ofDocument? document = some node →
      node.hasReferences = false → ¬ TooDeep (node.resolve ⟨store, formats, limit⟩) := by
  constructor
  · intro result patterns hresolve
    have hresolves := exists_resolve_iff.1 ⟨patterns, hresolve⟩
    refine ⟨hasReferences_eq_false_iff.2 hresolves.references_eq_nil, fun store' => ?_,
      fun hplain => ?_⟩
    · have hformats : (Surroundings.mk store' formats limit).formats =
          (Surroundings.mk store formats limit).formats := rfl
      exact exists_resolve_iff.2 (hresolves.again hformats)
    · exact hresolves.eq_of_references_eq_nil (hasReferences_eq_false_iff.1 hplain)
  · intro document hensure hread hplain
    exact not_tooDeep_of_legal (MetaSchema.ensure_eq_ok_iff.1 hensure) hread hplain

/-- The host is taken from a store and stays as it is without one. The port, two levels high, is not
too deep for a limit of one. -/
theorem Node.resolve_resolve_host : ∃ host port result patterns patterns',
    ofDocument? hostDocument = some host ∧ host.hasReferences = true ∧
    host.resolve Loader.withWords.surroundings = .ok (result, patterns) ∧
    result.hasReferences = false ∧
    result.resolve Loader.standard.surroundings = .ok (result, patterns') ∧
    ofDocument? portDocument = some port ∧
    ¬ TooDeep (port.resolve ⟨.empty, Formats.builtin, 1⟩) := by
  have hhost : (ofDocument? hostDocument).any (fun host => host.hasReferences &&
      (host.resolve Loader.withWords.surroundings).toOption.any fun _ => true) = true := by
    decide +kernel
  have hport : (ofDocument? portDocument).any (fun port => !port.hasReferences) = true := by
    decide +kernel
  have hensure : MetaSchema.ensure 1 portDocument = .ok () := by decide +kernel
  obtain ⟨host, hread, hrun⟩ := (Option.any_eq_true _ _).1 hhost
  obtain ⟨hreferences, hrun⟩ := Bool.and_eq_true_iff.1 hrun
  obtain ⟨⟨result, patterns⟩, hresolve, -⟩ := exists_ok_of_any hrun
  obtain ⟨port, hreadPort, hplain⟩ := (Option.any_eq_true _ _).1 hport
  obtain ⟨hfixed, -⟩ := host.resolve_resolve Loader.withWords.store Formats.builtin defaultMaxDepth
  obtain ⟨hnone, hagain, -⟩ := hfixed result patterns hresolve
  obtain ⟨patterns', hagain⟩ := hagain .empty
  obtain ⟨-, hshallow⟩ := port.resolve_resolve .empty Formats.builtin 1
  exact ⟨host, port, result, patterns, patterns', hread, hreferences, hresolve, hnone,
    hagain, hreadPort,
    hshallow portDocument hensure hreadPort (by simpa using hplain)⟩

end DataSchema
