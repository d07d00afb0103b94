import DataSchema.Proofs.Node.Reading
import DataSchema.Store

/-!
# Fragments

A fragment of a store is read from one place inside one of its documents, so whatever it refers to
stands as a text in that document: a store has finitely many references, however often they are
followed.
-/

namespace DataSchema.Store

variable {store : Store} {document found : Document} {steps : List String}
  {reference : String} {node : Node}

/-- A reference has a target when it names a document, its path can be followed,
and a node is read there. -/
theorem fragment_eq_ok_iff : store.fragment reference = .ok node ↔ ∃ target document found,
    Reference.parse reference = .ok target ∧ store.get? target.name = some document ∧
      follow document target.steps = .ok found ∧ Node.ofDocument? found = some node := by
  rw [fragment, bind_eq_ok]
  apply exists_congr
  intro target
  cases hget : store.get? target.name with
  | none => simp
  | some document =>
    cases hfollow : follow document target.steps with
    | error => simp [hfollow]
    | ok found =>
      cases hread : Node.ofDocument? found with
      | none => simp [hfollow, hread]
      | some => simp [hfollow, hread]

theorem texts_subset_of_follow (h : follow document steps = .ok found) :
    found.texts ⊆ document.texts := by
  induction steps generalizing document with
  | nil =>
    cases h
    exact List.Subset.refl _
  | cons step rest ih =>
    rw [follow] at h
    split at h
    · rename_i next hnext
      exact List.Subset.trans (ih h) (Document.texts_subset_of_get? hnext)
    · cases h

def texts (store : Store) : List String := store.documents.flatMap fun entry => entry.2.texts

theorem references_subset_texts (h : store.fragment reference = .ok node) :
    node.references ⊆ store.texts := by
  obtain ⟨target, document, found, -, hdocument, hfollow, hread⟩ := fragment_eq_ok_iff.1 h
  intro other hother
  apply List.mem_flatMap.2
  exact ⟨(target.name, document), Entries.mem_of_lookup hdocument,
    texts_subset_of_follow hfollow (Node.references_subset_texts hread hother)⟩

end DataSchema.Store
