import DataSchema.Proofs.Node.Fields

/-!
# Nodes that differ in the order of listed values

Two nodes are alike when they have the same positions, the same keys in the same order, and the same
fields everywhere, with listed values compared as sets. Merging cannot tell nodes that are alike
apart, and for nodes compared so it is associative, whichever side lists its values first in which
of the merges.
-/

namespace DataSchema

/-- Both fields are set or neither is, and they list the same values. -/
def SameValues {α : Type} (first second : Option (List α)) : Prop :=
  first.isSome = second.isSome ∧ ∀ value, value ∈ first.getD [] ↔ value ∈ second.getD []

namespace SameValues

variable {α : Type} {first second third : Option (List α)}

theorem refl (values : Option (List α)) : SameValues values values := ⟨rfl, fun _ => Iff.rfl⟩

theorem symm (h : SameValues first second) : SameValues second first :=
  ⟨h.1.symm, fun value => (h.2 value).symm⟩

theorem trans (h : SameValues first second) (h' : SameValues second third) :
    SameValues first third :=
  ⟨h.1.trans h'.1, fun value => (h.2 value).trans (h'.2 value)⟩

end SameValues

section

variable {α : Type} [DecidableEq α]

theorem isSome_unite (order : ListOrder) (base overlay : Option (List α)) :
    (order.unite base overlay).isSome = (base.isSome || overlay.isSome) := by
  cases base <;> cases overlay <;> cases order <;> rfl

theorem mem_unite {order : ListOrder} {base overlay : Option (List α)} {value : α} :
    value ∈ (order.unite base overlay).getD [] ↔
      value ∈ base.getD [] ∨ value ∈ overlay.getD [] := by
  cases base with
  | none => cases overlay <;> simp [ListOrder.unite]
  | some base =>
    cases overlay with
    | none => simp [ListOrder.unite]
    | some overlay => cases order <;> simp [ListOrder.unite, mem_appendMissing, or_comm]

theorem SameValues.unite {base overlay base' overlay' : Option (List α)}
    (hbase : SameValues base base') (hoverlay : SameValues overlay overlay')
    (order order' : ListOrder) :
    SameValues (order.unite base overlay) (order'.unite base' overlay') := by
  constructor
  · rw [isSome_unite, isSome_unite, hbase.1, hoverlay.1]
  · intro value
    rw [mem_unite, mem_unite, hbase.2, hoverlay.2]

theorem sameValues_unite_unite (first second third : Option (List α)) (o₁ o₂ o₃ o₄ : ListOrder) :
    SameValues (o₁.unite (o₂.unite first second) third)
      (o₃.unite first (o₄.unite second third)) := by
  constructor
  · simp only [isSome_unite, Bool.or_assoc]
  · intro value
    simp only [mem_unite, or_assoc]

end

namespace Node

theorem mergedNames_assoc (first second third : Option (List String)) :
    mergedNames (mergedNames first second) third =
      mergedNames first (mergedNames second third) := by
  cases third with
  | none => rfl
  | some third =>
    cases second with
    | none =>
      simp only [mergedNames, Option.getD_none, List.nil_append, List.filter_filter]
      congr 2
      apply List.filter_congr
      intro name _
      by_cases hfirst : name ∈ first.getD [] <;> simp [hfirst]
    | some second =>
      simp only [mergedNames, Option.getD_some, List.filter_append, List.append_assoc,
        List.filter_filter]
      congr 3
      apply List.filter_congr
      intro name _
      by_cases hfirst : name ∈ first.getD [] <;> simp [hfirst]

/-- Two nodes say the same, apart from what is below them. -/
structure SameFields (node other : Node) : Prop where
  kind : node.kind = other.kind
  reference : node.attributes.reference = other.attributes.reference
  scalar : ∀ field, node.scalar? field = other.scalar? field
  listed : ∀ field, SameValues (node.listed? field) (other.listed? field)
  keyNames : node.keyNames? = other.keyNames?

/-- Two nodes have the same positions and say the same at each of them. -/
def Alike (node other : Node) : Prop :=
  ∀ steps, Option.Rel SameFields (node.at? steps) (other.at? steps)

variable {node other third : Node} {order : ListOrder}

theorem SameFields.refl (node : Node) : SameFields node node :=
  ⟨rfl, rfl, fun _ => rfl, fun _ => .refl _, rfl⟩

theorem SameFields.symm (h : SameFields node other) : SameFields other node :=
  ⟨h.kind.symm, h.reference.symm, fun field => (h.scalar field).symm, fun field =>
    (h.listed field).symm,
    h.keyNames.symm⟩

theorem SameFields.trans (h : SameFields node other) (h' : SameFields other third) :
    SameFields node third :=
  ⟨h.kind.trans h'.kind, h.reference.trans h'.reference, fun field =>
    (h.scalar field).trans (h'.scalar field),
    fun field => (h.listed field).trans (h'.listed field), h.keyNames.trans h'.keyNames⟩

/-! ### Nodes that are alike -/

theorem rel_alike_iff {first second : Option Node} : Option.Rel Alike first second ↔
    ∀ rest, Option.Rel SameFields (first.bind (at? rest)) (second.bind (at? rest)) := by
  cases first with
  | none =>
    cases second with
    | none => simp
    | some second =>
      refine iff_of_false (by simp) fun h => ?_
      cases h []
  | some first =>
    cases second with
    | none =>
      refine iff_of_false (by simp) fun h => ?_
      cases h []
    | some second => rw [Option.rel_some_some]; rfl

theorem alike_iff : node.Alike other ↔
    SameFields node other ∧ ∀ step, Option.Rel Alike (node.below? step) (other.below? step) := by
  constructor
  · intro h
    exact ⟨Option.rel_some_some.1 (h []), fun step => rel_alike_iff.2 fun rest => h (step :: rest)⟩
  · rintro ⟨hfields, hbelow⟩ steps
    cases steps with
    | nil => exact .some hfields
    | cons step rest => exact rel_alike_iff.1 (hbelow step) rest

theorem Alike.fields (h : node.Alike other) : SameFields node other := (alike_iff.1 h).1

theorem Alike.below? (h : node.Alike other) (step : Step) :
    Option.Rel Alike (node.below? step) (other.below? step) := (alike_iff.1 h).2 step

theorem Alike.refl (node : Node) : node.Alike node := by
  intro steps
  cases node.at? steps with
  | none => exact .none
  | some inner => exact .some (.refl inner)

theorem Alike.symm (h : node.Alike other) : other.Alike node := by
  intro steps
  have hsteps := h steps
  revert hsteps
  generalize node.at? steps = inner, other.at? steps = inner'
  rintro (hfields | _)
  · exact .some hfields.symm
  · exact .none

theorem Alike.trans (h : node.Alike other) (h' : other.Alike third) : node.Alike third := by
  intro steps
  have hsteps := h steps
  have hsteps' := h' steps
  revert hsteps hsteps'
  generalize node.at? steps = inner, other.at? steps = inner', third.at? steps = inner''
  rintro (hfields | _) (hfields' | _)
  · exact .some (hfields.trans hfields')
  · exact .none

theorem NoReferences.alike (hnode : node.NoReferences) (h : node.Alike other) :
    other.NoReferences := by
  intro steps inner hinner
  have hsteps := h steps
  rw [hinner] at hsteps
  cases hnode' : node.at? steps with
  | none => simp [hnode'] at hsteps
  | some inner' =>
    rw [hnode', Option.rel_some_some] at hsteps
    rw [← hsteps.reference]
    exact hnode steps inner' hnode'

theorem Alike.ownFields (h : node.Alike other) : node.ownFields.Alike other.ownFields := by
  refine alike_iff.2 ⟨?_, fun step => by simpa using h.below? step⟩
  constructor
  · simpa using h.fields.kind
  · simp
  · simpa using h.fields.scalar
  · simpa using h.fields.listed
  · simpa using h.fields.keyNames

theorem rel_alike_refl (value : Option Node) : Option.Rel Alike value value := by
  cases value with
  | none => exact .none
  | some node => exact .some (.refl node)

theorem rel_alike_symm {first second : Option Node} (h : Option.Rel Alike first second) :
    Option.Rel Alike second first := by
  cases h with
  | none => exact .none
  | some halike => exact .some halike.symm

/-! ### Merging nodes that are alike -/

section

variable {o₁ o₂ o₃ o₄ : ListOrder} {base overlay merged : Node}

theorem SameFields.merge {base' overlay' merged' : Node} (hbase : SameFields base base')
    (hoverlay : SameFields overlay overlay') (hwell : overlay.WellFormed)
    (hwell' : overlay'.WellFormed) (h : base.merged? o₁ overlay = some merged)
    (h' : base'.merged? o₂ overlay' = some merged') :
    SameFields merged merged' where
  kind := by rw [kind_merged? h, kind_merged? h', hoverlay.kind]
  reference := by
    rw [reference_of_merged? h, reference_of_merged? h', hoverlay.reference, hbase.reference]
  scalar field := by
    rw [scalar?_of_merged? h, scalar?_of_merged? h', hoverlay.scalar, hbase.scalar]
  listed field := by
    rw [listed?_of_merged? h, listed?_of_merged? h']
    exact (hbase.listed field).unite (hoverlay.listed field) o₁ o₂
  keyNames := by
    rw [keyNames?_of_merged? hwell h, keyNames?_of_merged? hwell' h', hbase.keyNames,
      hoverlay.keyNames]

theorem exists_merged?_alike_of_steps {target : Node} (hwell : overlay.WellFormed)
    (hkind : base.kind = overlay.kind)
    (hstep : ∀ step, ∃ inner, mergedOptional? order (base.below? step) (overlay.below? step) =
      some inner ∧
      Option.Rel Alike inner (target.below? step))
    (hfields : ∀ merged, base.merged? order overlay = some merged → SameFields merged target) :
    ∃ merged, base.merged? order overlay = some merged ∧ merged.Alike target := by
  obtain ⟨merged, hmerged⟩ := exists_merged? hwell hkind fun step =>
    (hstep step).imp fun inner hinner => hinner.1
  refine ⟨merged, hmerged, alike_iff.2 ⟨hfields merged hmerged, fun step => ?_⟩⟩
  obtain ⟨inner, hinner, halike⟩ := hstep step
  cases hinner.symm.trans (below?_of_merged? hwell hmerged step)
  exact halike

theorem mergedOptional?_alike {base base' overlay overlay' merged : Option Node}
    (hbase : Option.Rel Alike base base') (hoverlay : Option.Rel Alike overlay overlay')
    (hmerge : ∀ b b' o o' m : Node, b.Alike b' → overlay = some o →
      overlay' = some o' → o.Alike o' →
      b.merged? o₁ o = some m → ∃ m', b'.merged? o₂ o' = some m' ∧ m'.Alike m)
    (h : mergedOptional? o₁ base overlay = some merged) :
    ∃ merged', mergedOptional? o₂ base' overlay' = some merged' ∧
      Option.Rel Alike merged' merged := by
  cases hoverlay with
  | none =>
    cases h
    exact ⟨base', rfl, rel_alike_symm hbase⟩
  | @some o o' ho =>
    obtain ⟨m, hm, rfl⟩ := Option.map_eq_some_iff.1 h
    cases hbase with
    | none =>
      cases hm
      exact ⟨some o', rfl, .some ho.symm⟩
    | @some b b' hb =>
      obtain ⟨m', hm', halike⟩ := hmerge b b' o o' m hb rfl rfl ho hm
      exact ⟨some m', Option.map_eq_some_iff.2 ⟨m', hm', rfl⟩, .some halike⟩

/-- Merging cannot tell apart nodes that are alike. -/
theorem exists_merged?_alike {base' overlay' : Node} (hbase : base.Alike base')
    (hoverlay : overlay.Alike overlay') (hwell : overlay.WellFormed) (hwell' : overlay'.WellFormed)
    (h : base.merged? o₁ overlay = some merged) :
    ∃ merged', base'.merged? o₂ overlay' = some merged' ∧ merged'.Alike merged := by
  induction overlay using inductionOnBelow generalizing base base' overlay' merged with
  | h overlay ih =>
    apply exists_merged?_alike_of_steps hwell'
    · rw [← hbase.fields.kind, ← hoverlay.fields.kind]
      exact kind_of_merged? h
    · intro step
      apply mergedOptional?_alike (hbase.below? step) (hoverlay.below? step) _
        (below?_of_merged? hwell h step)
      intro b b' o o' m hb ho ho' halike hm
      exact ih step o ho hb halike (hwell.below? ho) (hwell'.below? ho') hm
    · intro merged' h'
      exact hbase.fields.symm.merge hoverlay.fields.symm hwell' hwell h' h

theorem mergedOptional?_order {base overlay merged : Option Node}
    (hwell : ∀ o ∈ overlay, o.WellFormed) (h : mergedOptional? o₁ base overlay = some merged) :
    ∃ merged', mergedOptional? o₂ base overlay = some merged' ∧
      Option.Rel Alike merged' merged := by
  apply mergedOptional?_alike (rel_alike_refl base) (rel_alike_refl overlay) _ h
  intro b b' o o' m hb ho ho' halike hm
  exact exists_merged?_alike hb halike (hwell o ho) (hwell o' ho') hm

/-- Laying one node over another and a third over the result, or the third over the second first. -/
theorem SameFields.assoc {first second third left right merged : Node} (hsecond : second.WellFormed)
    (hthird : third.WellFormed) (hleft : first.merged? o₁ second = some left)
    (hright : second.merged? o₂ third = some right) (h : left.merged? o₃ third = some merged)
    {merged' : Node} (h' : first.merged? o₄ right = some merged') : SameFields merged merged' where
  kind := by rw [kind_merged? h, kind_merged? h', kind_merged? hright]
  reference := by
    rw [reference_of_merged? h, reference_of_merged? h', reference_of_merged? hright,
      reference_of_merged? hleft, Option.or_assoc]
  scalar field := by
    rw [scalar?_of_merged? h, scalar?_of_merged? h', scalar?_of_merged? hright,
      scalar?_of_merged? hleft, Option.or_assoc]
  listed field := by
    rw [listed?_of_merged? h, listed?_of_merged? h', listed?_of_merged? hright,
      listed?_of_merged? hleft]
    exact sameValues_unite_unite _ _ _ _ _ _ _
  keyNames := by
    have hwell : right.WellFormed := hsecond.merged? hthird hright
    rw [keyNames?_of_merged? hthird h, keyNames?_of_merged? hwell h',
      keyNames?_of_merged? hthird hright, keyNames?_of_merged? hsecond hleft, mergedNames_assoc]

theorem mergedOptional?_assoc {first second third left right merged' : Option Node}
    (hsecond : ∀ b ∈ second, b.WellFormed) (hthird : ∀ c ∈ third, c.WellFormed)
    (hmerge : ∀ a b c ab bc m' : Node, second = some b → third = some c →
      a.merged? o₁ b = some ab → b.merged? o₂ c = some bc → a.merged? o₄ bc = some m' →
      ∃ m, ab.merged? o₃ c = some m ∧ m.Alike m')
    (hleft : mergedOptional? o₁ first second = some left)
    (hright : mergedOptional? o₂ second third = some right)
    (h' : mergedOptional? o₄ first right = some merged') :
    ∃ merged, mergedOptional? o₃ left third = some merged ∧ Option.Rel Alike merged merged' := by
  cases third with
  | none =>
    cases hright
    obtain ⟨left', hleft', halike⟩ := mergedOptional?_order hsecond h'
    cases hleft.symm.trans hleft'
    exact ⟨left, rfl, halike⟩
  | some c =>
    cases second with
    | none =>
      cases hleft
      cases hright
      exact mergedOptional?_order hthird h'
    | some b =>
      obtain ⟨bc, hbc, rfl⟩ := Option.map_eq_some_iff.1 hright
      cases first with
      | none =>
        cases hleft
        cases h'
        exact mergedOptional?_order hthird hright
      | some a =>
        obtain ⟨ab, hab, rfl⟩ := Option.map_eq_some_iff.1 hleft
        obtain ⟨m', hm', rfl⟩ := Option.map_eq_some_iff.1 h'
        obtain ⟨m, hm, halike⟩ := hmerge a b c ab bc m' rfl rfl hab hbc hm'
        exact ⟨some m, Option.map_eq_some_iff.2 ⟨m, hm, rfl⟩, .some halike⟩

/-- Merging is associative up to the order of listed values. -/
theorem exists_merged?_assoc {first second third left right merged' : Node}
    (hsecond : second.WellFormed) (hthird : third.WellFormed)
    (hleft : first.merged? o₁ second = some left) (hright : second.merged? o₂ third = some right)
    (h' : first.merged? o₄ right = some merged') :
    ∃ merged, left.merged? o₃ third = some merged ∧ merged.Alike merged' := by
  induction third using inductionOnBelow generalizing first second left right merged' with
  | h third ih =>
    have hwell : right.WellFormed := hsecond.merged? hthird hright
    apply exists_merged?_alike_of_steps hthird
    · rw [kind_merged? hleft, kind_of_merged? hright]
    · intro step
      apply mergedOptional?_assoc (fun b => hsecond.below?) (fun c => hthird.below?) _
        (below?_of_merged? hsecond hleft step) (below?_of_merged? hthird hright step)
        (below?_of_merged? hwell h' step)
      intro a b c ab bc m' hb hc hab hbc hm'
      exact ih step c hc (hsecond.below? hb) (hthird.below? hc) hab hbc hm'
    · intro merged h
      exact .assoc hsecond hthird hleft hright h h'

end

end Node

end DataSchema
