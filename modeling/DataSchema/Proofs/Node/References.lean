import DataSchema.Proofs.Node.Fields

/-!
# References in a tree

Which references stand at a node or anywhere below it, how far down the lowest of them stands, and
how many levels the tree has. Merging two nodes brings no reference that neither of them has, loses
none of the overlay, and puts none further down; the tree itself may well become higher.
-/

namespace DataSchema.Node

variable {order : ListOrder} {node inner base overlay merged : Node} {reference : String}

/-! ### The references themselves -/

mutual

def references : Node → List String
  | .str a _ => a.reference.toList
  | .int a _ => a.reference.toList
  | .bool a _ => a.reference.toList
  | .dict a keys dynamicKeys _ =>
    a.reference.toList ++ (optionalKeysReferences keys ++ optionalReferences dynamicKeys)
  | .list a items _ => a.reference.toList ++ optionalReferences items

def optionalReferences : Option Node → List String
  | none => []
  | some node => node.references

def optionalKeysReferences : Option (List (String × Node)) → List String
  | none => []
  | some keys => keysReferences keys

def keysReferences : List (String × Node) → List String
  | [] => []
  | (_, node) :: rest => node.references ++ keysReferences rest

end

theorem keysReferences_eq_flatMap (keys : List (String × Node)) :
    keysReferences keys = (keys.map Prod.snd).flatMap references := by
  induction keys with
  | nil => rfl
  | cons entry rest ih => rw [keysReferences, ih, List.map_cons, List.flatMap_cons]

theorem references_eq (node : Node) :
    node.references = node.attributes.reference.toList ++ node.children.flatMap references := by
  have hoptional : ∀ value, optionalReferences value = value.toList.flatMap references := by
    intro value
    cases value <;> simp [optionalReferences]
  cases node with
  | str | int | bool => simp [references, children, attributes]
  | dict a keys dynamicKeys other =>
    rw [references, hoptional, children, List.flatMap_append]
    cases keys with
    | none => rfl
    | some keys =>
      rw [optionalKeysReferences, keysReferences_eq_flatMap]
      rfl
  | list a items c =>
    rw [references, hoptional]
    rfl

theorem mem_references : reference ∈ node.references ↔
    node.attributes.reference = some reference ∨ ∃ inner ∈ node.children,
      reference ∈ inner.references := by
  rw [references_eq, List.mem_append, Option.mem_toList, List.mem_flatMap]

theorem references_eq_nil_iff : node.references = [] ↔
    node.attributes.reference = none ∧ ∀ inner ∈ node.children, inner.references = [] := by
  rw [references_eq, List.append_eq_nil_iff, List.flatMap_eq_nil_iff, Option.toList_eq_nil_iff]

theorem hasReferences_eq_false_iff : node.hasReferences = false ↔ node.references = [] := by
  induction node using inductionOnChildren with
  | h node ih =>
    rw [hasReferences_eq_false_iff_children, references_eq_nil_iff]
    exact and_congr_right fun _ => forall₂_congr ih

/-! ### Merging -/

/-- What is kept when an overlay's child is laid over another node holds below the merged node. The
base's children change from key to key, the overlay's do not. -/
theorem forall_children_of_merged? {motive : Node → Prop}
    (hbase : ∀ inner ∈ base.children, motive inner)
    (hoverlay : ∀ inner ∈ overlay.children, motive inner)
    (hmerge : ∀ o ∈ overlay.children, ∀ b m, motive b → b.merged? order o = some m → motive m)
    (h : base.merged? order overlay = some merged) : ∀ inner ∈ merged.children, motive inner := by
  have hover : ∀ (b : Option Node) (m : Node), ∀ o ∈ overlay.children, (∀ node ∈ b, motive node) →
      mergedOver? order b o = some m → motive m := by
    intro b m o ho hb hm
    cases b with
    | none =>
      cases hm
      exact hoverlay _ ho
    | some b => exact hmerge o ho b m (hb b rfl) hm
  have hoptional : ∀ b o m : Option Node, (∀ node ∈ o, node ∈ overlay.children) →
      (∀ node ∈ b, motive node) →
      mergedOptional? order b o = some m → ∀ node ∈ m, motive node := by
    intro b o m ho hb hm
    cases o with
    | none =>
      cases hm
      exact hb
    | some o =>
      obtain ⟨result, hresult, rfl⟩ := Option.map_eq_some_iff.1 hm
      intro node hnode
      cases hnode
      exact hover b result o (ho o rfl) hb hresult
  have hkeys : ∀ keys baseKeys mergedKeys : List (String × Node),
      (∀ entry ∈ keys, entry.2 ∈ overlay.children) →
      (∀ entry ∈ baseKeys, motive entry.2) → mergedKeys? order baseKeys keys = some mergedKeys →
      ∀ entry ∈ mergedKeys, motive entry.2 := by
    intro keys
    induction keys with
    | nil =>
      intro baseKeys mergedKeys _ hb hm
      cases hm
      exact hb
    | cons entry rest ih =>
      intro baseKeys mergedKeys ho hb hm
      rw [List.forall_mem_cons] at ho
      obtain ⟨inserted, hinserted, hrest⟩ := Option.bind_eq_some_iff.1 hm
      have hgood : motive inserted := hover _ inserted entry.2 ho.1 (fun node hnode =>
        hb (entry.1, node) (Entries.mem_of_lookup hnode)) hinserted
      refine ih _ mergedKeys ho.2 (fun other hother => ?_) hrest
      rcases Entries.mem_insert hother with rfl | hother
      · exact hgood
      · exact hb other hother
  cases mergesTo_of_merged? h with
  | str | int | bool => simp [children]
  | @dict a b keys baseKeys mergedKeys dynamicKeys baseDynamicKeys mergedDynamicKeys other baseOther
    hdynamic hstatic =>
    simp only [children, List.forall_mem_append, List.forall_mem_map, Option.mem_toList]
      at hbase hoverlay hoptional hkeys ⊢
    refine ⟨?_, hoptional _ _ _ (fun node hnode => List.mem_append_right _
      (Option.mem_toList.2 hnode)) hbase.2 hdynamic⟩
    cases keys with
    | none =>
      cases hstatic
      exact hbase.1
    | some keys =>
      obtain ⟨result, hresult, rfl⟩ := Option.map_eq_some_iff.1 hstatic
      exact hkeys keys _ result (fun entry hentry => List.mem_append_left _
        (List.mem_map_of_mem hentry)) hbase.1 hresult
  | list hitems =>
    simp only [children, Option.mem_toList] at hbase hoptional ⊢
    exact hoptional _ _ _ (fun node hnode => hnode) hbase hitems

theorem references_of_merged? {known : String → Prop}
    (hbase : ∀ reference ∈ base.references, known reference)
    (hoverlay : ∀ reference ∈ overlay.references, known reference)
    (h : base.merged? order overlay = some merged) :
    ∀ reference ∈ merged.references, known reference := by
  have hbelow : ∀ {node : Node}, (∀ reference ∈ node.references, known reference) →
      ∀ inner ∈ node.children, ∀ reference ∈ inner.references, known reference :=
    fun hnode inner hinner reference hreference =>
      hnode reference (mem_references.2 (.inr ⟨inner, hinner, hreference⟩))
  induction overlay using inductionOnChildren generalizing base merged with
  | h overlay ih =>
    intro reference hreference
    rcases mem_references.1 hreference with hhere | ⟨inner, hinner, hreference⟩
    · rw [reference_of_merged? h, Option.or_eq_some_iff] at hhere
      rcases hhere with hoverlay' | ⟨-, hbase'⟩
      · exact hoverlay reference (mem_references.2 (.inl hoverlay'))
      · exact hbase reference (mem_references.2 (.inl hbase'))
    · exact forall_children_of_merged? (hbelow hbase) (hbelow hoverlay)
        (fun o ho b m hb hm => ih o ho hb (hbelow hoverlay o ho) hm) h inner hinner
          reference hreference

theorem mem_references_of_merged? (hoverlay : overlay.WellFormed)
    (h : base.merged? order overlay = some merged) (hreference : reference ∈ overlay.references) :
    reference ∈ merged.references := by
  induction overlay using inductionOnChildren generalizing base merged with
  | h overlay ih =>
    apply mem_references.2
    rcases mem_references.1 hreference with hhere | ⟨inner, hinner, hbelow⟩
    · left
      rw [reference_of_merged? h, hhere, Option.some_or]
    · right
      obtain ⟨step, hstep⟩ := hoverlay.exists_step hinner
      have hmerged := below?_of_merged? hoverlay h step
      rw [hstep] at hmerged
      obtain ⟨found, hfound, heq⟩ := Option.map_eq_some_iff.1 hmerged
      refine ⟨found, mem_children_of_below? heq.symm, ?_⟩
      cases hbase : base.below? step with
      | none =>
        rw [hbase] at hfound
        cases hfound
        exact hbelow
      | some other =>
        rw [hbase] at hfound
        exact ih inner hinner (hoverlay.below? hstep) hfound hbelow

/-! ### Levels -/

/-- References stand on the first levels of the tree only. -/
def RefersWithin : Nat → Node → Prop
  | 0, node => node.references = []
  | levels + 1, node => ∀ inner ∈ node.children, RefersWithin levels inner

def FitsWithin : Nat → Node → Prop
  | 0, _ => False
  | levels + 1, node => ∀ inner ∈ node.children, FitsWithin levels inner

variable {levels levels' : Nat}

theorem RefersWithin.succ (h : node.RefersWithin levels) : node.RefersWithin (levels + 1) := by
  induction levels generalizing node with
  | zero => exact (references_eq_nil_iff.1 h).2
  | succ levels ih => exact fun inner hinner => ih (h inner hinner)

theorem RefersWithin.mono (h : node.RefersWithin levels) (hle : levels ≤ levels') :
    node.RefersWithin levels' := by
  induction hle with
  | refl => exact h
  | step _ ih => exact ih.succ

theorem FitsWithin.succ (h : node.FitsWithin levels) : node.FitsWithin (levels + 1) := by
  induction levels generalizing node with
  | zero => exact h.elim
  | succ levels ih => exact fun inner hinner => ih (h inner hinner)

theorem FitsWithin.mono (h : node.FitsWithin levels) (hle : levels ≤ levels') :
    node.FitsWithin levels' := by
  induction hle with
  | refl => exact h
  | step _ ih => exact ih.succ

/-- A bound for each of finitely many nodes gives one bound for all of them. -/
theorem exists_common_bound {within : Nat → Node → Prop} (nodes : List Node)
    (hmono : ∀ node levels levels', levels ≤ levels' → within levels node → within levels' node)
    (h : ∀ node ∈ nodes, ∃ levels, within levels node) :
    ∃ levels, ∀ node ∈ nodes, within levels node := by
  induction nodes with
  | nil => exact ⟨0, by simp⟩
  | cons node rest ih =>
    rw [List.forall_mem_cons] at h
    obtain ⟨first, hfirst⟩ := h.1
    obtain ⟨others, hothers⟩ := ih h.2
    refine ⟨max first others, List.forall_mem_cons.2 ⟨?_, fun other hother => ?_⟩⟩
    · exact hmono node _ _ (Nat.le_max_left first others) hfirst
    · exact hmono other _ _ (Nat.le_max_right first others) (hothers other hother)

theorem exists_refersWithin (node : Node) : ∃ levels, node.RefersWithin levels := by
  induction node using inductionOnChildren with
  | h node ih =>
    obtain ⟨levels, hlevels⟩ :=
      @exists_common_bound (fun levels node => node.RefersWithin levels) node.children
        (fun _ _ _ hle h => h.mono hle) ih
    exact ⟨levels + 1, hlevels⟩

theorem exists_fitsWithin (node : Node) : ∃ levels, node.FitsWithin levels := by
  induction node using inductionOnChildren with
  | h node ih =>
    obtain ⟨levels, hlevels⟩ :=
      @exists_common_bound (fun levels node => node.FitsWithin levels) node.children
        (fun _ _ _ hle h => h.mono hle) ih
    exact ⟨levels + 1, hlevels⟩

theorem RefersWithin.merged? (hbase : base.RefersWithin levels)
    (hoverlay : overlay.RefersWithin levels) (h : base.merged? order overlay = some merged) :
    merged.RefersWithin levels := by
  induction levels generalizing base overlay merged with
  | zero =>
    have hnone : ∀ {node : Node}, node.references = [] ↔ ∀ reference ∈ node.references, False := by
      simp [List.eq_nil_iff_forall_not_mem]
    exact hnone.2 (references_of_merged? (hnone.1 hbase) (hnone.1 hoverlay) h)
  | succ levels ih =>
    exact forall_children_of_merged? hbase hoverlay
      (fun o ho b m hb hm => ih hb (hoverlay o ho) hm) h

theorem FitsWithin.merged? (hbase : base.FitsWithin levels) (hoverlay : overlay.FitsWithin levels)
    (h : base.merged? order overlay = some merged) : merged.FitsWithin levels := by
  induction levels generalizing base overlay merged with
  | zero => exact hbase.elim
  | succ levels ih =>
    exact forall_children_of_merged? hbase hoverlay
      (fun o ho b m hb hm => ih hb (hoverlay o ho) hm) h

end DataSchema.Node
