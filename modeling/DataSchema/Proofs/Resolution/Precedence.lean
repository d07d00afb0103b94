import DataSchema.Proofs.Resolution.Relation

/-!
# Local fields win

A node that refers to a fragment may say more than the fragment does, at itself and anywhere below,
and what it says wins: whatever a node sets at a position is found again at the same position of the
resolved node. That takes more than the precedence of one merge, since a node below a reference is
merged with a node of the target, keeps a reference of its own, and is resolved only then.
-/

namespace DataSchema

namespace Node

/-- What the fields of a node say is also said by a node of the same kind: values that are set are
the same, and lists of values begin with those of the node. -/
structure CarriedTo (own result : Node) : Prop where
  kind : result.kind = own.kind
  scalar : ∀ field value, own.scalar? field = some value → result.scalar? field = some value
  listed : ∀ field values, own.listed? field = some values →
    ∃ all, result.listed? field = some all ∧ values <+: all

/-- What a node says at each of its positions, the other says there as well. -/
def CarriedBelow (own result : Node) : Prop :=
  ∀ steps inner, own.at? steps = some inner → ∃ found, result.at? steps = some found ∧
    inner.CarriedTo found

variable {own middle result : Node}

theorem CarriedTo.trans (h : own.CarriedTo middle) (h' : middle.CarriedTo result) :
    own.CarriedTo result where
  kind := h'.kind.trans h.kind
  scalar field value hvalue := h'.scalar field value (h.scalar field value hvalue)
  listed field values hvalues := by
    obtain ⟨some, hsome, hleads⟩ := h.listed field values hvalues
    obtain ⟨all, hall, hleads'⟩ := h'.listed field some hsome
    exact ⟨all, hall, hleads.trans hleads'⟩

theorem CarriedBelow.trans (h : own.CarriedBelow middle) (h' : middle.CarriedBelow result) :
    own.CarriedBelow result := by
  intro steps inner hinner
  obtain ⟨between, hbetween, hcarried⟩ := h steps inner hinner
  obtain ⟨found, hfound, hcarried'⟩ := h' steps between hbetween
  exact ⟨found, hfound, hcarried.trans hcarried'⟩

theorem carriedTo_of_eq (hkind : result.kind = own.kind)
    (hscalar : ∀ field, result.scalar? field = own.scalar? field)
    (hlisted : ∀ field, result.listed? field = own.listed? field) : own.CarriedTo result where
  kind := hkind
  scalar field value hvalue := by rw [hscalar, hvalue]
  listed field values hvalues := ⟨values, by rw [hlisted, hvalues], List.prefix_rfl⟩

theorem CarriedBelow.refl (own : Node) : own.CarriedBelow own :=
  fun _ inner hinner => ⟨inner, hinner, carriedTo_of_eq rfl (fun _ => rfl) fun _ => rfl⟩

theorem carriedBelow_of_below? (h : own.CarriedTo result)
    (hbelow : ∀ step inner, own.below? step = some inner →
    ∃ found, result.below? step = some found ∧ inner.CarriedBelow found) :
    own.CarriedBelow result := by
  intro steps inner hinner
  cases steps with
  | nil =>
    cases hinner
    exact ⟨result, rfl, h⟩
  | cons step rest =>
    obtain ⟨next, hnext, hrest⟩ := Option.bind_eq_some_iff.1 hinner
    obtain ⟨next', hnext', hcarried⟩ := hbelow step next hnext
    obtain ⟨found, hfound, hinner'⟩ := hcarried rest inner hrest
    exact ⟨found, Option.bind_eq_some_iff.2 ⟨next', hnext', hfound⟩, hinner'⟩

/-! ### Overriding -/

theorem carriedTo_of_override {base merged : Node}
    (h : base.merged? .overlayFirst own = some merged) :
    own.CarriedTo merged where
  kind := kind_merged? h
  scalar field value hvalue := by rw [scalar?_of_merged? h, hvalue, Option.some_or]
  listed field values hvalues := by
    rw [listed?_of_merged? h, hvalues]
    cases base.listed? field with
    | none => exact ⟨values, rfl, List.prefix_rfl⟩
    | some others => exact ⟨_, rfl, prefix_appendMissing values others⟩

theorem carriedBelow_of_override {base merged : Node} (hown : own.WellFormed)
    (h : base.merged? .overlayFirst own = some merged) : own.CarriedBelow merged := by
  induction own using inductionOnBelow generalizing base merged with
  | h own ih =>
    refine carriedBelow_of_below? (carriedTo_of_override h) fun step inner hinner => ?_
    have hmerged := below?_of_merged? hown h step
    rw [hinner] at hmerged
    obtain ⟨found, hfound, heq⟩ := Option.map_eq_some_iff.1 hmerged
    refine ⟨found, heq.symm, ?_⟩
    cases hbase : base.below? step with
    | none =>
      rw [hbase] at hfound
      cases hfound
      exact .refl inner
    | some below =>
      rw [hbase] at hfound
      exact ih step inner hinner (hown.below? hinner) hfound

theorem carriedBelow_ownFields (node : Node) : node.CarriedBelow node.ownFields := by
  refine carriedBelow_of_below? ?_ fun step inner hinner => ⟨inner, ?_, .refl inner⟩
  · exact carriedTo_of_eq node.kind_ownFields node.scalar?_ownFields node.listed?_ownFields
  · rw [below?_ownFields, hinner]

end Node

namespace Resolution

variable {around : Surroundings} {guarded : Bool} {room : Nat} {inProgress : List String}
  {node expanded result : Node}

theorem Expands.carriedBelow {store : Store} {resolves : List String → Node → Node → Prop}
    (hnode : node.WellFormed) (h : Expands store guarded inProgress resolves node expanded) :
    node.CarriedBelow expanded := by
  cases h with
  | plain => exact .refl node
  | target _ _ _ _ hmerged =>
    exact node.carriedBelow_ownFields.trans (Node.carriedBelow_of_override hnode.ownFields hmerged)

theorem Descends.carriedTo {formats : Formats} {resolves : Node → Node → Prop}
    (h : Descends formats resolves node result) : node.CarriedTo result := by
  exact Node.carriedTo_of_eq h.kind h.scalar? h.listed?

/-- What the local fields say at a position survives the references above it and the one there. -/
theorem Resolves.carriedBelow (hstore : around.store.WellFormed) (hnode : node.WellFormed)
    (h : Resolves around guarded room inProgress node result) : node.CarriedBelow result := by
  induction room generalizing inProgress node result with
  | zero => exact h.elim
  | succ room ih =>
    obtain ⟨expanded, hexpands, hdescends⟩ := h
    have hexpanded : expanded.WellFormed := hexpands.wellFormed hstore hnode
    refine (hexpands.carriedBelow hnode).trans (Node.carriedBelow_of_below? hdescends.carriedTo ?_)
    intro step inner hinner
    have hstep := hdescends.below? step
    rw [hinner] at hstep
    obtain ⟨found, hfound, hresolves⟩ := exists_of_rel_some hstep
    exact ⟨found, hfound, ih (hexpanded.below? hinner) hresolves⟩

end Resolution

open Resolution

/-- Local fields win everywhere: a resolved node has a node of the same kind at every position of
the node as written, and says there what was set there, whichever fragments are involved. -/
theorem Node.carriedTo_of_resolve {document : Document} {node result inner : Node}
    {around : Surroundings} {patterns : Patterns} {steps : List Step}
    (hstore : around.store.WellFormed) (hdocument : document.WellFormed)
    (hread : Node.ofDocument? document = some node)
    (hresolve : node.resolve around = .ok (result, patterns))
    (hinner : node.at? steps = some inner) :
    ∃ found, result.at? steps = some found ∧ inner.CarriedTo found := by
  have hnode : node.WellFormed := Node.wellFormed_of_ofDocument? hdocument hread
  have hresolves : Resolves around true (around.maxDepth + 1) [] node result :=
    Node.exists_resolve_iff.1 ⟨patterns, hresolve⟩
  exact hresolves.carriedBelow hstore hnode steps inner hinner

/-- A store with a port, and with a server that has such a port. -/
def Store.withServer : Store :=
  ⟨[("net", .object [
    ("port", .object [("type", .string "int"), ("min", .int 1), ("max", .int 65535),
      ("valid_values", .array [.int 80, .int 443])]),
    ("server", .object [("type", .string "dict"), ("keys", .object [
      ("port", .object [("$ref", .string "net#/port"), ("type", .string "int"),
        ("required", .bool true)])])])])], defaultMaxDepth⟩

/-- Such a server, whose port is a port again, with another least number and one more value. -/
def webDocument : Document :=
  .object [("type", .string "dict"), ("keys", .object [
    ("web", .object [("$ref", .string "net#/server"), ("type", .string "dict"), ("keys", .object [
      ("port", .object [("$ref", .string "net#/port"), ("type", .string "int"), ("min", .int 80),
        ("valid_values", .array [.int 8080])])])])])]

/-- The port below the server keeps its own least number. -/
theorem Node.carriedTo_of_resolve_web : ∃ node result patterns inner found,
    Node.ofDocument? webDocument = some node ∧
    node.resolve ⟨.withServer, Formats.builtin, defaultMaxDepth⟩ = .ok (result, patterns) ∧
    node.at? [.key "web", .key "port"] = some inner ∧ inner.scalar? .min = some (.int 80) ∧
    result.at? [.key "web", .key "port"] = some found ∧ found.scalar? .min = some (.int 80) := by
  have hstore : Store.withServer.WellFormed := by
    simp [Store.WellFormed, Store.withServer, Document.WellFormed, Document.WellFormedEntries,
      Document.WellFormedElements]
  have hdocument : webDocument.WellFormed := by
    simp [webDocument, Document.WellFormed, Document.WellFormedEntries, Document.WellFormedElements]
  have hrun : (Node.ofDocument? webDocument).any (fun node =>
      (node.at? [.key "web", .key "port"]).any (·.scalar? .min = some (.int 80)) &&
      (node.resolve ⟨.withServer, Formats.builtin, defaultMaxDepth⟩).toOption.any fun _ => true) =
        true := by
    decide +kernel
  obtain ⟨node, hread, htest⟩ := (Option.any_eq_true _ _).1 hrun
  obtain ⟨hposition, hresolves⟩ := Bool.and_eq_true_iff.1 htest
  obtain ⟨inner, hinner, hmin⟩ := (Option.any_eq_true _ _).1 hposition
  obtain ⟨⟨result, patterns⟩, hresolve, -⟩ := exists_ok_of_any hresolves
  have hmin := of_decide_eq_true hmin
  obtain ⟨found, hfound, hcarried⟩ :=
    Node.carriedTo_of_resolve hstore hdocument hread hresolve hinner
  exact ⟨node, result, patterns, inner, found, hread, hresolve, hinner, hmin, hfound,
    hcarried.scalar .min _ hmin⟩

end DataSchema
