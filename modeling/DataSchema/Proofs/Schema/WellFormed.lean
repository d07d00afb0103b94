import DataSchema.Proofs.Resolution.WellFormed
import DataSchema.Proofs.Schema.Loaded

/-!
# Schemas of well-formed documents

The readers never give a document that holds a key twice. A schema that is loaded from such
documents, over a store of them, and extended by them, declares no key twice.
-/

namespace DataSchema

/-- The schemas that come from loading and extending when no document involved, those of the store
included, holds a key twice. -/
inductive WellLoaded : Schema → Prop
  | load {loader document schema} :
      loader.store.WellFormed → document.WellFormed → Loader.load loader document = .ok schema →
      WellLoaded schema
  | extend {schema fragment extended} :
      WellLoaded schema → fragment.WellFormed → schema.extend fragment = .ok extended →
      WellLoaded extended

namespace WellLoaded

variable {schema : Schema}

theorem of_standard {document : Document} (hdocument : document.WellFormed)
    (hload : Loader.standard.load document = .ok schema) : WellLoaded schema :=
  .load (by simp [Store.WellFormed, Loader.standard, Store.empty]) hdocument hload

theorem loaded (h : WellLoaded schema) : Loaded schema := by
  induction h with
  | load _ _ hload => exact .load hload
  | extend _ _ hextend ih => exact .extend ih hextend

theorem wellFormed (h : WellLoaded schema) :
    schema.loader.store.WellFormed ∧ schema.source.WellFormed ∧ schema.root.WellFormed := by
  have hwritten : schema.loader.store.WellFormed ∧ schema.source.WellFormed := by
    induction h with
    | load hstore hdocument hload =>
      obtain ⟨rfl, -, hread, -⟩ := Loader.of_load hload
      exact ⟨hstore, Node.wellFormed_of_ofDocument? hdocument hread⟩
    | extend _ hdocument hextend ih =>
      obtain ⟨hloader, -, ⟨fragment, hread, hmerge⟩, -⟩ := Schema.of_extend hextend
      have hfragment : fragment.WellFormed := Node.wellFormed_of_ofDocument? hdocument hread
      exact ⟨hloader ▸ ih.1, Node.merge_wellFormed ih.2 hfragment hmerge⟩
  exact ⟨hwritten.1, hwritten.2,
    Node.resolve_wellFormed hwritten.1 hwritten.2 h.loaded.resolve_source⟩

theorem root_wellFormed (h : WellLoaded schema) : schema.root.WellFormed := h.wellFormed.2.2

end WellLoaded

end DataSchema
