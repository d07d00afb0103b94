import Mathlib.Data.Finset.Card
import DataSchema.Proofs.Resolution.Failures
import DataSchema.Proofs.Resolution.Resolved
import DataSchema.Proofs.Resolution.Runs

/-!
# The depth limit

A resolution that comes to an end within the depth limit gives the same outcome with every larger
limit, and some limit is always enough. What is used up is not the height of the tree, which grows
when targets are merged in, but two other things: the references of the store that are not yet in
progress, and the levels below which no reference is left. A target is resolved with one reference
more in progress; local fields that are laid over it bring references, but none further down than
they stood before. Hence a cycle of references never needs the depth limit to be reported.
-/

namespace DataSchema

/-- The outcome is that a place lies deeper than the limit allows. -/
def TooDeep {α : Type} (outcome : Except SchemaError α) : Prop :=
  ∃ path limit, outcome = .error (.depthExceeded path limit)

namespace Resolution

variable {store : Store} {formats : Formats} {limit limit' : Nat} {guarded : Bool}
  {inProgress : List String}

/-! ### More room -/

/-- The second run does what the first does, unless that one comes too deep. -/
def AgreesUnlessTooDeep (α : Type) (run run' : Resolving α) : Prop :=
  ∀ before, ¬ TooDeep (run before) → run' before = run before

theorem agreesUnlessTooDeep_iff {α : Type} {run run' : Resolving α} :
    AgreesUnlessTooDeep α run run' ↔
    AgreesUnless (fun error => ∃ path limit, error = .depthExceeded path limit) α run run' := by
  refine forall_congr' fun before => imp_congr_left ⟨fun hdeep error herror hstops => ?_,
    fun hgoesOn hdeep => ?_⟩
  · obtain ⟨path, limit, rfl⟩ := hstops
    exact hdeep ⟨path, limit, herror⟩
  · obtain ⟨path, limit, herror⟩ := hdeep
    exact hgoesOn _ herror ⟨path, limit, rfl⟩

theorem compatible_agreesUnlessTooDeep : Compatible AgreesUnlessTooDeep where
  refl run := agreesUnlessTooDeep_iff.2 ((compatible_agreesUnless _).refl run)
  bind h hnext := agreesUnlessTooDeep_iff.2
    ((compatible_agreesUnless _).bind (agreesUnlessTooDeep_iff.1 h) fun a =>
      agreesUnlessTooDeep_iff.1 (hnext a))

theorem agrees_resolveWithin {room room' : Nat} (hle : room ≤ room') (inProgress : List String)
    (path : Path) (node : Node) : AgreesUnlessTooDeep Node
    (resolveWithin ⟨store, formats, limit⟩ guarded room inProgress path node)
      (resolveWithin ⟨store, formats, limit'⟩ guarded room' inProgress path node) := by
  induction room generalizing room' inProgress path node with
  | zero =>
    intro before hdeep
    exact absurd ⟨path, limit, by rw [resolveWithin, fail]⟩ hdeep
  | succ room ih =>
    obtain ⟨room', rfl⟩ := Nat.exists_eq_add_of_lt hle
    rw [resolveWithin, resolveWithin]
    apply compatible_agreesUnlessTooDeep.bind
    · refine compatible_agreesUnlessTooDeep.expand (fun reference => ?_)
        (fun inProgress node => ?_) path node
      · exact compatible_agreesUnlessTooDeep.refl _
      · exact ih (Nat.le_add_right _ _) inProgress path node
    · intro expanded
      exact compatible_agreesUnlessTooDeep.descend (ih (Nat.le_add_right _ _) inProgress) _ _ _

/-! ### Enough room -/

variable {around : Surroundings} {room room' : Nat} {node : Node}

/-- So many levels are enough to resolve the node, wherever it stands: no
error is about the depth. -/
def SettlesWithin (around : Surroundings) (room : Nat) (inProgress : List String) (node : Node) :
    Prop :=
  ∀ path, FailsWith SchemaError.OfNode (resolveWithin around true room inProgress path node)

theorem SettlesWithin.not_tooDeep (h : SettlesWithin around room inProgress node) (path : Path)
    {before : Patterns} (hsound : before.Sound) :
    ¬ TooDeep (resolveWithin around true room inProgress path node before) := by
  intro hdeep
  obtain ⟨place, limit, hrun⟩ := hdeep
  cases h path before hsound _ hrun

theorem SettlesWithin.mono (h : SettlesWithin around room inProgress node) (hle : room ≤ room') :
    SettlesWithin around room' inProgress node := by
  intro path before hsound
  rw [agrees_resolveWithin hle inProgress path node before (h.not_tooDeep path hsound)]
  exact h path before hsound

theorem settlesWithin_succ
    (htarget : ∀ reference fragment, node.attributes.reference = some reference →
      reference ∉ inProgress →
      around.store.fragment reference = .ok fragment →
      SettlesWithin around room (inProgress ++ [reference]) fragment) (hbelow : ∀ expanded,
        Expands around.store true inProgress (Resolves around true room) node expanded →
      ∀ inner ∈ expanded.children, SettlesWithin around room inProgress inner) :
    SettlesWithin around (room + 1) inProgress node := by
  intro path
  apply failsWith_resolveWithin_succ fun _ h => h
  · exact fun reference fragment hreference hnew hfragment =>
      htarget reference fragment hreference hnew hfragment path
  · exact hbelow

theorem settlesWithin_of_fitsWithin (hnode : node.references = []) (hfits : node.FitsWithin room) :
    SettlesWithin around room inProgress node := by
  induction room generalizing node with
  | zero => exact hfits.elim
  | succ room ih =>
    obtain ⟨hplain, hbelow⟩ := Node.references_eq_nil_iff.1 hnode
    apply settlesWithin_succ
    · simp [hplain]
    · intro expanded hexpanded inner hinner
      cases hexpanded with
      | plain => exact ih (hbelow inner hinner) (hfits inner hinner)
      | target hreference => simp [hplain] at hreference

/-! ### Some room is enough -/

/-- The nodes below the expanded node have references on fewer levels than the node as written. -/
theorem Expands.refersWithin {expanded : Node} {levels : Nat}
    (hnode : node.RefersWithin (levels + 1))
    (h : Expands around.store true inProgress (Resolves around true room) node expanded) :
    expanded.RefersWithin (levels + 1) := by
  cases h with
  | plain => exact hnode
  | target _ _ _ htarget hmerged =>
    have hnone : Node.RefersWithin 0 _ := htarget.references_eq_nil
    apply (hnone.mono (Nat.zero_le _)).merged? _ hmerged
    rw [Node.RefersWithin, Node.children_ownFields]
    exact hnode

theorem Expands.references {expanded : Node} {known : String → Prop}
    (hnode : ∀ reference ∈ node.references, known reference)
    (h : Expands around.store true inProgress (Resolves around true room) node expanded) :
    ∀ reference ∈ expanded.references, known reference := by
  cases h with
  | plain => exact hnode
  | target _ _ _ htarget hmerged =>
    refine Node.references_of_merged? ?_ (fun reference hreference => hnode reference ?_) hmerged
    · simp [htarget.references_eq_nil]
    · rw [Node.references_eq, Node.reference_ownFields, Node.children_ownFields] at hreference
      exact Node.references_eq node ▸ List.mem_append_right _ hreference

/-- A node needs one level more than the target of its reference and the nodes
below it once expanded. -/
theorem exists_settlesWithin_of_parts
    (htarget : ∀ reference fragment, node.attributes.reference = some reference →
      reference ∉ inProgress →
      around.store.fragment reference = .ok fragment →
      ∃ room, SettlesWithin around room (inProgress ++ [reference]) fragment)
    (hbelow : ∀ room expanded, Expands around.store true inProgress (Resolves around true room)
      node expanded →
      ∀ inner ∈ expanded.children, ∃ room, SettlesWithin around room inProgress inner) :
    ∃ room, SettlesWithin around room inProgress node := by
  have habove : ∃ room, ∀ reference fragment, node.attributes.reference = some reference →
      reference ∉ inProgress →
      around.store.fragment reference = .ok fragment →
      SettlesWithin around room (inProgress ++ [reference]) fragment := by
    by_cases hexists : ∃ reference fragment, node.attributes.reference = some reference ∧
      reference ∉ inProgress ∧
        around.store.fragment reference = .ok fragment
    · obtain ⟨reference, fragment, hreference, hnew, hfragment⟩ := hexists
      obtain ⟨room, hroom⟩ := htarget reference fragment hreference hnew hfragment
      exact ⟨room, by grind⟩
    · exact ⟨0, by grind⟩
  have hinside : ∃ room, ∀ room' expanded,
      Expands around.store true inProgress (Resolves around true room') node expanded →
      ∀ inner ∈ expanded.children, SettlesWithin around room inProgress inner := by
    by_cases hexists : ∃ room expanded, Expands around.store true inProgress
      (Resolves around true room) node expanded
    · obtain ⟨room', expanded, hexpanded⟩ := hexists
      obtain ⟨room, hroom⟩ :=
        @Node.exists_common_bound (fun room inner => SettlesWithin around room inProgress inner)
          expanded.children (fun _ _ _ hle h => h.mono hle) (hbelow room' expanded hexpanded)
      refine ⟨room, fun room'' expanded' hexpanded' => ?_⟩
      rw [hexpanded'.unique hexpanded fun _ _ _ _ htarget => htarget.unique]
      exact hroom
    · exact ⟨0, fun room expanded hexpanded => absurd ⟨room, expanded, hexpanded⟩ hexists⟩
  obtain ⟨roomAbove, habove⟩ := habove
  obtain ⟨roomInside, hinside⟩ := hinside
  refine ⟨max roomAbove roomInside + 1, settlesWithin_succ ?_ ?_⟩
  · intro reference fragment hreference hnew hfragment
    exact (habove reference fragment hreference hnew hfragment).mono (Nat.le_max_left _ _)
  · intro expanded hexpanded inner hinner
    exact (hinside _ expanded hexpanded inner hinner).mono (Nat.le_max_right _ _)

theorem sdiff_append_ssubset {known : Finset String} {reference : String}
    (hknown : reference ∈ known) (hnew : reference ∉ inProgress) :
    known \ (inProgress ++ [reference]).toFinset ⊂ known \ inProgress.toFinset := by
  apply (Finset.ssubset_iff_of_subset (Finset.sdiff_subset_sdiff le_rfl (by simp))).2
  exact ⟨reference, by simp [hknown, hnew], by simp⟩

theorem exists_settlesWithin {known : Finset String}
    (hstore : ∀ reference fragment, around.store.fragment reference = .ok fragment →
      ∀ reference ∈ fragment.references, reference ∈ known)
    (hnode : ∀ reference ∈ node.references, reference ∈ known) :
    ∃ room, SettlesWithin around room inProgress node := by
  -- The references that are not in progress, and then the levels with references: a target has
  -- fewer of the former and perhaps more of the latter, the nodes below have fewer of the latter.
  induction hleft : known \ inProgress.toFinset using Finset.strongInductionOn
    generalizing inProgress node with
  | _ left ihtarget =>
    obtain ⟨levels, hlevels⟩ := node.exists_refersWithin
    induction levels generalizing node with
    | zero =>
      obtain ⟨room, hfits⟩ := node.exists_fitsWithin
      exact ⟨room, settlesWithin_of_fitsWithin hlevels hfits⟩
    | succ levels ihbelow =>
      apply exists_settlesWithin_of_parts
      · intro reference fragment hreference hnew hfragment
        have hknown : reference ∈ known := hnode reference (Node.mem_references.2 (.inl hreference))
        exact ihtarget _ (hleft ▸ sdiff_append_ssubset hknown hnew)
          (hstore reference fragment hfragment) rfl
      · intro room expanded hexpanded inner hinner
        have hreferences := hexpanded.references hnode
        exact ihbelow (fun reference hreference =>
            hreferences reference (Node.mem_references.2 (.inr ⟨inner, hinner, hreference⟩)))
          (hexpanded.refersWithin hlevels inner hinner)

end Resolution

end DataSchema
