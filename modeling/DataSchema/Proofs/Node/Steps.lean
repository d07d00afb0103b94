import DataSchema.Proofs.Node.WellFormed

/-!
# Positions in a node

A position leads from a node to one below it, through static keys, the schema of other keys and the
elements of lists. What a node is at a position is the only thing that merging and resolving look
at: both work step by step, and the order of the static keys is the one thing that the nodes at all
positions do not show.
-/

namespace DataSchema

/-- A step from a node to one directly below it. -/
inductive Step where
  | key (name : String) | dynamicKeys | items
deriving DecidableEq

namespace Node

variable {node inner : Node} {step : Step}

/-- The node one step below. -/
def below? : Step → Node → Option Node
  | .key name, .dict _ keys _ _ => (keys.getD []).lookup name
  | .dynamicKeys, .dict _ _ dynamicKeys _ => dynamicKeys
  | .items, .list _ items _ => items
  | _, _ => none

def at? : List Step → Node → Option Node
  | [], node => some node
  | step :: rest, node => (node.below? step).bind (at? rest)

def keyNames? : Node → Option (List String)
  | .dict _ keys _ _ => keys.map fun keys => keys.map Prod.fst
  | _ => none

theorem WellFormed.below? (h : node.WellFormed) (hinner : node.below? step = some inner) :
    inner.WellFormed := by
  cases h with
  | dict hnodup hkeys hdynamic =>
    cases step with
    | key name => exact hkeys _ (Entries.mem_of_lookup hinner)
    | dynamicKeys => exact hdynamic inner hinner
    | items => cases hinner
  | list hitems =>
    cases step with
    | items => exact hitems inner hinner
    | _ => cases hinner
  | _ => cases step <;> cases hinner

theorem WellFormed.at? {position : List Step} (h : node.WellFormed)
    (hinner : node.at? position = some inner) :
    inner.WellFormed := by
  induction position generalizing node with
  | nil =>
    cases hinner
    exact h
  | cons step rest ih =>
    obtain ⟨next, hnext, hrest⟩ := Option.bind_eq_some_iff.1 hinner
    exact ih (h.below? hnext) hrest

theorem exists_below?_of_child? {name : String} (h : node.child? name = some inner) :
    ∃ step, node.below? step = some inner := by
  cases node with
  | dict a keys dynamicKeys other =>
    rcases Option.or_eq_some_iff.1 h with hstatic | ⟨-, hother⟩
    · cases keys with
      | none => cases hstatic
      | some keys => exact ⟨.key name, hstatic⟩
    · exact ⟨.dynamicKeys, hother⟩
  | _ => cases h

theorem below?_of_items? (h : node.items? = some inner) : node.below? .items = some inner := by
  cases node with
  | list => exact h
  | _ => cases h

/-- The nodes directly below come first. -/
theorem inductionOnChildren {motive : Node → Prop} (node : Node)
    (h : ∀ node : Node, (∀ inner ∈ node.children, motive inner) → motive node) : motive node := by
  induction node with
  | str | int | bool =>
    apply h
    simp [children]
  | dict a keys dynamicKeys other ihkeys ihdynamic =>
    apply h
    intro inner hinner
    rcases List.mem_append.1 hinner with hstatic | hother
    · obtain ⟨entry, hentry, rfl⟩ := List.mem_map.1 hstatic
      exact ihkeys entry hentry
    · exact ihdynamic inner (Option.mem_toList.1 hother)
  | list a items c ih =>
    apply h
    intro inner hinner
    exact ih inner (Option.mem_toList.1 hinner)

theorem mem_children_of_below? {step : Step} (h : node.below? step = some inner) :
    inner ∈ node.children := by
  cases node with
  | str | int | bool => cases step <;> cases h
  | dict a keys dynamicKeys other =>
    apply List.mem_append.2
    cases step with
    | key name => exact .inl (List.mem_map_of_mem (f := Prod.snd) (Entries.mem_of_lookup h))
    | dynamicKeys => exact .inr (Option.mem_toList.2 h)
    | items => cases h
  | list a items c =>
    cases step with
    | items => exact Option.mem_toList.2 h
    | _ => cases h

/-- Where no key is declared twice, every node directly below is one step away. -/
theorem WellFormed.exists_step (h : node.WellFormed) (hinner : inner ∈ node.children) :
    ∃ step, node.below? step = some inner := by
  cases h with
  | str | int | bool => cases hinner
  | dict hnodup =>
    rcases List.mem_append.1 hinner with hstatic | hother
    · obtain ⟨entry, hentry, rfl⟩ := List.mem_map.1 hstatic
      exact ⟨.key entry.1, Entries.lookup_of_mem hnodup hentry⟩
    · exact ⟨.dynamicKeys, Option.mem_toList.1 hother⟩
  | list => exact ⟨.items, Option.mem_toList.1 hinner⟩

theorem inductionOnBelow {motive : Node → Prop} (node : Node)
    (h : ∀ node : Node, (∀ step inner, node.below? step = some inner → motive inner) →
      motive node) :
    motive node := by
  induction node using inductionOnChildren with
  | h node ih => exact h node fun step inner hinner => ih inner (mem_children_of_below? hinner)

/-- The nodes at all positions below come first. -/
theorem inductionOnPositions {motive : Node → Prop} (node : Node)
    (h : ∀ node : Node, (∀ step rest inner, node.at? (step :: rest) = some inner → motive inner) →
      motive node) :
    motive node := by
  have hall : ∀ position inner, node.at? position = some inner → motive inner := by
    induction node using inductionOnBelow with
    | h node ih =>
      have hbelow : ∀ step rest inner, node.at? (step :: rest) = some inner → motive inner := by
        intro step rest inner hinner
        obtain ⟨next, hnext, hrest⟩ := Option.bind_eq_some_iff.1 hinner
        exact ih step next hnext rest inner hrest
      intro position inner hinner
      cases position with
      | nil =>
        cases hinner
        exact h node hbelow
      | cons step rest => exact hbelow step rest inner hinner
  exact hall [] node rfl

/-! ### Nodes without their reference -/

/-- The node without its reference: what it says besides its target. -/
def ownFields (node : Node) : Node := node.withAttributes { node.attributes with reference := none }

@[simp]
theorem kind_ownFields (node : Node) : node.ownFields.kind = node.kind := by
  cases node <;> rfl

@[simp]
theorem reference_ownFields (node : Node) : node.ownFields.attributes.reference = none := by
  cases node <;> rfl

@[simp]
theorem below?_ownFields (node : Node) (step : Step) :
    node.ownFields.below? step = node.below? step := by
  cases node <;> cases step <;> rfl

@[simp]
theorem keyNames?_ownFields (node : Node) : node.ownFields.keyNames? = node.keyNames? := by
  cases node <;> rfl

@[simp]
theorem children_ownFields (node : Node) : node.ownFields.children = node.children := by
  cases node <;> rfl

theorem WellFormed.ownFields (h : node.WellFormed) : node.ownFields.WellFormed := h.withAttributes _

/-! ### Nodes without references -/

def NoReferences (node : Node) : Prop :=
  ∀ steps inner, node.at? steps = some inner → inner.attributes.reference = none

theorem NoReferences.reference (h : node.NoReferences) : node.attributes.reference = none :=
  h [] node rfl

theorem NoReferences.below? (h : node.NoReferences) (hinner : node.below? step = some inner) :
    inner.NoReferences := by
  intro steps found hfound
  exact h (step :: steps) found (Option.bind_eq_some_iff.2 ⟨inner, hinner, hfound⟩)

theorem hasReferences_eq_false_iff_children : node.hasReferences = false ↔
    node.attributes.reference = none ∧ ∀ inner ∈ node.children, inner.hasReferences = false := by
  have hkeys : ∀ keys : List (String × Node), keysHaveReferences keys = false ↔
      ∀ inner ∈ keys.map Prod.snd, inner.hasReferences = false := by
    intro keys
    induction keys with
    | nil => simp [keysHaveReferences]
    | cons entry rest ih =>
      rw [keysHaveReferences, Bool.or_eq_false_iff, ih, List.map_cons, List.forall_mem_cons]
  have hoptional : ∀ value : Option Node, optionalHasReferences value = false ↔
      ∀ inner ∈ value.toList, inner.hasReferences = false := by
    intro value
    cases value <;> simp [optionalHasReferences]
  cases node with
  | str | int | bool => simp [hasReferences, children, attributes]
  | dict a keys dynamicKeys other =>
    rw [hasReferences, Bool.or_eq_false_iff, Bool.or_eq_false_iff, Option.isSome_eq_false_iff,
      Option.isNone_iff_eq_none, hoptional, and_assoc, children, List.forall_mem_append]
    cases keys with
    | none => simp [optionalKeysHaveReferences, attributes]
    | some keys =>
      rw [optionalKeysHaveReferences, hkeys]
      rfl
  | list a items c =>
    rw [hasReferences, Bool.or_eq_false_iff, Option.isSome_eq_false_iff,
      Option.isNone_iff_eq_none, hoptional]
    rfl

theorem noReferences_of_hasReferences (h : node.hasReferences = false) : node.NoReferences := by
  intro steps found hfound
  induction steps generalizing node with
  | nil =>
    cases hfound
    exact (hasReferences_eq_false_iff_children.1 h).1
  | cons step rest ih =>
    obtain ⟨next, hnext, hrest⟩ := Option.bind_eq_some_iff.1 hfound
    exact ih ((hasReferences_eq_false_iff_children.1 h).2 next (mem_children_of_below? hnext)) hrest

end Node

end DataSchema
