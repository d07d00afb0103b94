import DataSchema.Proofs.Node.References
import DataSchema.Proofs.Resolution.Relation

/-!
# Errors of resolutions

Apart from places that lie too deep, a resolution fails for a reason that lies in a node: a
reference that has no target, comes round or has a target of another kind, or a format, pattern or
primary key that does not pass. Which errors a run may end with is proved part by part; the parts
that resolve something else pass on its errors.
-/

namespace DataSchema

/-- The error is about a node of the schema, and not about the depth. -/
inductive SchemaError.OfNode : SchemaError → Prop
  | referenceNotFound {reference target} : OfNode (.referenceNotFound reference target)
  | malformedReference {reference fault} : OfNode (.malformedReference reference fault)
  | kindConflict {place base overlay} : OfNode (.kindConflict place base overlay)
  | cyclicReference {chain} : OfNode (.cyclicReference chain)
  | unknownFormat {path format} : OfNode (.unknownFormat path format)
  | invalidPattern {path pattern} : OfNode (.invalidPattern path pattern)
  | invalidPrimaryKey {path key} : OfNode (.invalidPrimaryKey path key)

namespace Resolution

def FailsWith {α : Type} (errors : SchemaError → Prop) (run : Resolving α) : Prop :=
  ∀ before : Patterns, before.Sound → ∀ error, run before = .error error → errors error

variable {errors : SchemaError → Prop} {error : SchemaError}

section

variable {α β : Type}

theorem failsWith_pure (a : α) : FailsWith errors (pure a) := by
  intro before _ error h
  cases h

theorem failsWith_fail (h : errors error) (next : α → Resolving β) :
    FailsWith errors (fail error >>= next) := by
  intro before _ error' hrun
  cases hrun
  exact h

theorem failsWith_lift {outcome : Except SchemaError α}
    (h : ∀ error, outcome = .error error → errors error) :
    FailsWith errors (lift outcome) := by
  intro before _ error hrun
  cases outcome with
  | ok => cases hrun
  | error =>
    cases hrun
    exact h _ rfl

theorem FailsWith.bind {run : Resolving α} {result : α → Prop} {next : α → Resolving β}
    (h : FailsWith errors run) (hreturns : Returns run result)
    (hnext : ∀ a, result a → FailsWith errors (next a)) : FailsWith errors (run >>= next) := by
  intro before hsound error hrun
  rcases bind_eq_error (x := run before) hrun with hfirst | ⟨outcome, hfirst, hsecond⟩
  · exact h before hsound error hfirst
  · obtain ⟨hafter, ha⟩ := (hreturns before hsound).1 outcome.1 outcome.2 hfirst
    exact hnext outcome.1 ha outcome.2 hafter error hsecond

theorem FailsWith.bind_pure {run : Resolving α} {result : α → Prop} (h : FailsWith errors run)
    (hreturns : Returns run result) (f : α → β) : FailsWith errors (run >>= fun a => pure (f a)) :=
  h.bind hreturns fun a _ => failsWith_pure (f a)

theorem failsWith_optional {run : α → Resolving α} {resolves : α → α → Prop} {value : Option α}
    (hreturns : ∀ value, Returns (run value) (resolves value))
    (h : ∀ inner ∈ value, FailsWith errors (run inner)) :
    FailsWith errors (optional run value) := by
  cases value with
  | none => exact failsWith_pure none
  | some inner => exact (h inner rfl).bind_pure (hreturns inner) _

end

/-! ### The checks of a node -/

theorem ofNode_of_checkFormat {formats : Formats} {path : Path} {c : TextConstraints}
    (h : checkFormat formats path c = .error error) : error.OfNode := by
  unfold checkFormat at h
  grind [SchemaError.OfNode]

theorem ofNode_of_checkPrimaryKey {path : Path} {items : Option Node} {c : ListConstraints}
    (h : checkPrimaryKey path items c = .error error) : error.OfNode := by
  unfold checkPrimaryKey at h
  grind [SchemaError.OfNode]

theorem ofNode_of_overlay {reference : String} {path : Path} {target own : Node}
    (h : overlay reference path target own = .error error) : error.OfNode := by
  unfold overlay at h
  split at h
  · obtain ⟨conflict, -, rfl⟩ := mapError_eq_error h
    exact .kindConflict
  · cases h
    exact .kindConflict

theorem ofNode_of_fragment {store : Store} {reference : String}
    (h : store.fragment reference = .error error) :
    error.OfNode := by
  rcases bind_eq_error h with h | ⟨target, -, h⟩
  · unfold Reference.parse at h
    grind [SchemaError.OfNode]
  · grind [SchemaError.OfNode]

theorem ofNode_of_compile {path : Path} {c : TextConstraints} {before : Patterns}
    (h : compile path c before = .error error) : error.OfNode := by
  unfold compile at h
  grind [SchemaError.OfNode]

/-! ### The parts of a resolution -/

section

variable {formats : Formats} {run : Path → Node → Resolving Node} {resolves : Node → Node → Prop}
  (hreturns : ∀ path node, Returns (run path node) (resolves node))

include hreturns

theorem failsWith_eachKey {keys : List (String × Node)} (path : Path)
    (h : ∀ entry ∈ keys, ∀ path, FailsWith errors (run path entry.2)) :
    FailsWith errors (eachKey run path keys) := by
  induction keys with
  | nil => exact failsWith_pure []
  | cons declared rest ih =>
    rw [List.forall_mem_cons] at h
    apply (h.1 _).bind (hreturns _ _)
    intro resolved _
    exact (ih h.2).bind_pure (returns_eachKey hreturns path rest) _

variable (herrors : ∀ error, error.OfNode → errors error)

include herrors

theorem failsWith_descend {node : Node} (path : Path)
    (h : ∀ inner ∈ node.children, ∀ path, FailsWith errors (run path inner)) :
    FailsWith errors (descend formats run path node) := by
  cases node with
  | dict a keys dynamicKeys other =>
    have hkeys : FailsWith errors (optional (eachKey run (path.join (.key "keys"))) keys) := by
      refine failsWith_optional (returns_eachKey hreturns _) fun declared hdeclared => ?_
      cases hdeclared
      exact failsWith_eachKey hreturns _ fun entry hentry =>
        h entry.2 (List.mem_append_left _ (List.mem_map_of_mem hentry))
    apply hkeys.bind (returns_optional (returns_eachKey hreturns _) keys)
    intro keys' _
    have hdynamic : FailsWith errors
        (optional (run (path.join (.key "dynamic_keys"))) dynamicKeys) :=
      failsWith_optional (hreturns _) fun inner hinner =>
        h inner (List.mem_append_right _ (Option.mem_toList.2 hinner)) _
    exact hdynamic.bind_pure (returns_optional (hreturns _) dynamicKeys) _
  | list a items c =>
    have hitems : FailsWith errors (optional (run (path.join (.key "items"))) items) :=
      failsWith_optional (hreturns _) fun inner hinner => h inner (Option.mem_toList.2 hinner) _
    apply hitems.bind (returns_optional (hreturns _) items)
    intro items' _
    exact (failsWith_lift fun error h => herrors error (ofNode_of_checkPrimaryKey h)).bind_pure
      (returns_lift _) _
  | str a c =>
    apply (failsWith_lift fun error h => herrors error (ofNode_of_checkFormat h)).bind
      (returns_lift _)
    intro _ _
    have hcompile : FailsWith errors (compile path c) :=
      fun _ _ error h => herrors error (ofNode_of_compile h)
    exact hcompile.bind_pure (returns_compile path c) _
  | int | bool => exact failsWith_pure _

end

variable {around : Surroundings} {room : Nat} {inProgress : List String} {node : Node}

theorem failsWith_expand (herrors : ∀ error, error.OfNode → errors error)
    {run : List String → Node → Resolving Node} {resolves : List String → Node → Node → Prop}
    (hreturns : ∀ inProgress node, Returns (run inProgress node) (resolves inProgress node))
    (path : Path)
    (h : ∀ reference fragment, node.attributes.reference = some reference → reference ∉ inProgress →
      around.store.fragment reference = .ok fragment →
      FailsWith errors (run (inProgress ++ [reference]) fragment)) :
    FailsWith errors (expand around true inProgress run path node) := by
  unfold expand
  cases hreference : node.attributes.reference with
  | none => exact failsWith_pure node
  | some reference =>
    dsimp only
    split
    · exact failsWith_fail (herrors _ .cyclicReference) _
    · rename_i hcycle
      rw [Bool.true_and, List.contains_iff_mem] at hcycle
      apply (failsWith_lift fun error h => herrors error (ofNode_of_fragment h)).bind
        (returns_lift _)
      intro fragment hfragment
      apply (h reference fragment hreference hcycle hfragment).bind (hreturns _ fragment)
      intro target _
      exact failsWith_lift fun error h => herrors error (ofNode_of_overlay h)

/-- A node fails with errors of its own, of the target of its reference, and of what lies below it
once it is expanded. -/
theorem failsWith_resolveWithin_succ (herrors : ∀ error, error.OfNode → errors error) (path : Path)
    (htarget : ∀ reference fragment, node.attributes.reference = some reference →
      reference ∉ inProgress →
      around.store.fragment reference = .ok fragment →
      FailsWith errors (resolveWithin around true room (inProgress ++ [reference]) path fragment))
    (hbelow : ∀ expanded, Expands around.store true inProgress (Resolves around true room)
      node expanded →
      ∀ inner ∈ expanded.children, ∀ path,
        FailsWith errors (resolveWithin around true room inProgress path inner)) :
    FailsWith errors (resolveWithin around true (room + 1) inProgress path node) := by
  have hreturns := fun inProgress => returns_resolveWithin around true room inProgress path
  rw [resolveWithin]
  apply (failsWith_expand herrors hreturns path htarget).bind (returns_expand hreturns path node)
  intro expanded hexpanded
  exact failsWith_descend (returns_resolveWithin around true room inProgress) herrors path
    (hbelow expanded hexpanded)

theorem failsWith_resolveWithin (herrors : ∀ error, error.OfNode → errors error)
    (hdeep : ∀ path, errors (.depthExceeded path around.maxDepth)) (path : Path) :
    FailsWith errors (resolveWithin around true room inProgress path node) := by
  induction room generalizing inProgress path node with
  | zero =>
    intro before _ error h
    cases h
    exact hdeep path
  | succ room ih =>
    apply failsWith_resolveWithin_succ herrors
    · exact fun _ _ _ _ _ => ih path
    · exact fun _ _ _ _ path => ih path

end Resolution

theorem Node.ofNode_or_depthExceeded_of_resolve {node : Node} {around : Surroundings}
    {error : SchemaError} (h : node.resolve around = .error error) :
    error.OfNode ∨ ∃ path, error = .depthExceeded path around.maxDepth := by
  have hempty : Patterns.Sound [] := by simp [Patterns.Sound]
  have hfails : Resolution.FailsWith (fun error => error.OfNode ∨
        ∃ path, error = .depthExceeded path around.maxDepth)
      (Resolution.resolveWithin around true (around.maxDepth + 1) [] [] node) :=
    Resolution.failsWith_resolveWithin (fun _ h => .inl h) (fun path => .inr ⟨path, rfl⟩) []
  exact hfails [] hempty error h

end DataSchema
