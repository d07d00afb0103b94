import DataSchema.Proofs.Node.Everywhere
import DataSchema.Proofs.Resolution.DepthLimit

/-!
# Properties of fields under resolution

Resolution lays nodes over fragments and leaves the fields of what it finds alone. A property of
fields that holds everywhere in a node and in the fragments that its references lead to holds
everywhere in the tree that the node is resolved to.
-/

namespace DataSchema.Resolution

variable {around : Surroundings} {room : Nat} {inProgress : List String} {node result : Node}
  {good : Node → Prop} {known : String → Prop}

theorem Descends.ofFields {formats : Formats} {resolves : Node → Node → Prop}
    (hgood : Node.OfFields good) (hnode : good node) (h : Descends formats resolves node result) :
    good result :=
  hgood.congr h.kind h.scalar? h.listed? hnode

theorem Resolves.everywhere (hgood : Node.OfFields good)
    (hknown : ∀ reference, known reference → ∀ fragment, around.store.fragment reference =
      .ok fragment →
      fragment.Everywhere good ∧ ∀ reference ∈ fragment.references, known reference)
    (hnode : node.Everywhere good) (hreferences : ∀ reference ∈ node.references, known reference)
    (h : Resolves around true room inProgress node result) : result.Everywhere good := by
  induction room generalizing inProgress node result with
  | zero => exact h.elim
  | succ room ih =>
    obtain ⟨expanded, hexpands, hdescends⟩ := h
    have hbelow : ∀ reference ∈ expanded.references, known reference :=
      hexpands.references hreferences
    have hexpanded : expanded.Everywhere good := by
      cases hexpands with
      | plain => exact hnode
      | target hreference _ hfragment htarget hmerged =>
        have hhere := hreferences _ (Node.mem_references.2 (.inl hreference))
        obtain ⟨heverywhere, hothers⟩ := hknown _ hhere _ hfragment
        exact (ih heverywhere hothers htarget).merged? hgood.merged? (hnode.ownFields hgood) hmerged
    refine .node (hdescends.ofFields hgood hexpanded.here) fun inner hinner => ?_
    obtain ⟨before, hbefore, hresolves⟩ := hdescends.exists_of_mem_children hinner
    exact ih (hexpanded.of_mem_children hbefore)
      (fun reference hreference => hbelow reference
        (Node.mem_references.2 (.inr ⟨before, hbefore, hreference⟩))) hresolves

end DataSchema.Resolution
