import DataSchema.Proofs.Node.References

/-!
# What holds of every node of a tree

Much of what is said about a tree is said of each of its nodes. The nodes of a merged tree are nodes
of the base, nodes of the overlay, and nodes merged from one of each, so a property that merging
keeps at one node is kept at all of them. A property of fields looks at nothing but the kind of a
node and what its fields hold; taking the reference away does not matter to it.
-/

namespace DataSchema.Node

/-- The property holds of the node and of all nodes below it. -/
inductive Everywhere (good : Node → Prop) : Node → Prop
  | node {node : Node} (hhere : good node)
      (hbelow : ∀ inner ∈ node.children, Everywhere good inner) : Everywhere good node

/-- The property looks at the kind and the fields of a node alone, and merging keeps it. -/
structure OfFields (good : Node → Prop) : Prop where
  congr : ∀ {node other : Node}, other.kind = node.kind →
    (∀ field, other.scalar? field = node.scalar? field) →
    (∀ field, other.listed? field = node.listed? field) → good node → good other
  merged? : ∀ {order base overlay merged}, good base → good overlay →
    base.merged? order overlay = some merged → good merged

variable {good : Node → Prop} {order : ListOrder} {node inner base overlay merged : Node}

namespace Everywhere

theorem here (h : node.Everywhere good) : good node := by
  cases h
  assumption

theorem of_mem_children (h : node.Everywhere good) (hinner : inner ∈ node.children) :
    inner.Everywhere good := by
  cases h with
  | node _ hbelow => exact hbelow inner hinner

theorem merged? (hmerge : ∀ {base overlay merged}, good base → good overlay →
      base.merged? order overlay = some merged → good merged) (hbase : base.Everywhere good)
    (hoverlay : overlay.Everywhere good) (h : base.merged? order overlay = some merged) :
    merged.Everywhere good := by
  induction overlay using inductionOnChildren generalizing base merged with
  | h overlay ih =>
    refine .node (hmerge hbase.here hoverlay.here h) ?_
    exact forall_children_of_merged? (fun _ => hbase.of_mem_children) (fun _ =>
        hoverlay.of_mem_children)
      (fun o ho b m hb hm => ih o ho hb (hoverlay.of_mem_children ho) hm) h

theorem ownFields (hgood : OfFields good) (h : node.Everywhere good) :
    node.ownFields.Everywhere good := by
  refine .node (hgood.congr node.kind_ownFields node.scalar?_ownFields
    node.listed?_ownFields h.here) ?_
  rw [children_ownFields]
  exact fun inner hinner => h.of_mem_children hinner

end Everywhere

end DataSchema.Node
