import DataSchema.Proofs.Node.Reading
import DataSchema.Proofs.Resolution.Resolved
import DataSchema.Proofs.Validation.Conformance

/-!
# Legal documents

`Legal` says when a document is a legal schema, without violations and their paths: every node
stands within the depth limit, has a known type, and sets only fields that its kind has, to values
that the field allows. What stands where a node belongs but is no object is not looked into; that is
left to the description of the field. A document has no violations exactly when it is legal.
-/

namespace DataSchema

open Resolution

/-- The error is about a document that is no schema. -/
inductive SchemaError.OfDocument : SchemaError → Prop
  | violation {path cause} : OfDocument (.violation path cause)
  | depthExceeded {path limit} : OfDocument (.depthExceeded path limit)

namespace MetaSchema

variable {maxDepth depth : Nat} {path : Path} {kind : Kind} {entries : Entries Document}
  {document : Document}

/-! ### The descriptions of the kinds -/

/-- The descriptions are schemas themselves: they have no references, and their one pattern is the
one that nodes are checked with. -/
theorem resolve_node (kind : Kind) :
    (node kind).resolve ⟨.empty, Formats.builtin, defaultMaxDepth⟩ =
      .ok (node kind, rules.patterns) := by
  have hrun : ((node kind).resolve ⟨.empty, Formats.builtin, defaultMaxDepth⟩).toOption.any
      (fun outcome => decide (outcome.2 = rules.patterns)) = true := by
    cases kind <;> decide +kernel
  have hplain : (node kind).hasReferences = false := by
    cases kind <;> decide +kernel
  obtain ⟨⟨result, patterns⟩, hresolve, hpatterns⟩ := exists_ok_of_any hrun
  have hresolves := Node.exists_resolve_iff.1 ⟨patterns, hresolve⟩
  rw [hresolve, hresolves.eq_of_references_eq_nil (Node.hasReferences_eq_false_iff.1 hplain)]
  rw [show patterns = rules.patterns from of_decide_eq_true hpatterns]

theorem applicable_node (kind : Kind) : Applicable rules 0 (node kind) :=
  (Node.resolve_applicable (resolve_node kind)).1

theorem rules_sound : rules.patterns.Sound := (Node.resolve_applicable (resolve_node .str)).2

def field? (kind : Kind) (key : String) : Option Node := (node kind).staticKey? key

/-- Of the fields only `type` is required, and no others than the described ones are allowed. -/
theorem node_eq (kind : Kind) :
    ∃ a keys, node kind = .dict a (some keys) none none ∧ (keys.map Prod.fst).Nodup ∧
    (∀ entry ∈ keys, entry.2.isRequired = true → entry.1 = "type") ∧
    ∀ key, field? kind key = keys.lookup key := by
  cases kind <;> exact ⟨_, _, rfl, by decide, by decide, fun _ => rfl⟩

def Allows (kind : Kind) (key : String) (value : Document) : Prop :=
  ∃ rule, field? kind key = some rule ∧ Conforms Formats.builtin rule none value

/-- Every field that is there belongs to the kind and has a value that it allows. -/
def FieldsLegal (kind : Kind) (entries : Entries Document) : Prop :=
  ∀ key value, entries.lookup key = some value → Allows kind key value

theorem FieldsLegal.of_conforms (h : Conforms Formats.builtin (node kind) none (.object entries)) :
    FieldsLegal kind entries := by
  obtain ⟨a, keys, hnode, -, -, hfield⟩ := node_eq kind
  rw [hnode] at h
  cases h with
  | dict hpresent _ _ hclosed =>
    intro key value hvalue
    rw [Allows, hfield]
    cases hrule : keys.lookup key with
    | none =>
      cases hclosed key value (Entries.mem_of_lookup hvalue)
        (Entries.lookup_eq_none_iff.1 hrule) rfl
    | some rule =>
      refine ⟨rule, rfl, ?_⟩
      by_cases hnull : value = .null
      · exact hnull ▸ .null
      · exact hpresent key rule (Entries.mem_of_lookup hrule) value hvalue hnull

theorem FieldsLegal.conforms (h : FieldsLegal kind entries)
    (hkind : Node.declaredKind? entries = some kind) :
    Conforms Formats.builtin (node kind) none (.object entries) := by
  obtain ⟨a, keys, hnode, hnodup, hrequired, hfield⟩ := node_eq kind
  have hdescribed : ∀ key value, (key, value) ∈ entries → key ∈ keys.map Prod.fst := by
    intro key value hentry
    cases hvalue : entries.lookup key with
    | none => exact absurd (List.mem_map_of_mem hentry) (Entries.lookup_eq_none_iff.1 hvalue)
    | some value =>
      obtain ⟨rule, hrule, -⟩ := h key value hvalue
      rw [hfield] at hrule
      exact List.mem_map_of_mem (Entries.mem_of_lookup hrule)
  rw [hnode]
  apply Conforms.dict
  · intro key rule hrule value hvalue _
    obtain ⟨rule', hrule', hconforms⟩ := h key value hvalue
    rw [hfield, Entries.lookup_of_mem hnodup hrule] at hrule'
    cases hrule'
    exact hconforms
  · intro key rule hrule habsent
    refine ⟨Bool.eq_false_iff.2 fun hneeded => ?_, by simp⟩
    obtain ⟨value, hvalue, hname⟩ := Option.bind_eq_some_iff.1 hkind
    cases hrequired _ hrule hneeded
    cases habsent value hvalue
    cases hname
  · intro key value hentry hnot
    exact absurd (hdescribed key value hentry) hnot
  · intro key value hentry hnot
    exact absurd (hdescribed key value hentry) hnot

theorem fieldViolations_eq_nil_iff (hkind : Node.declaredKind? entries = some kind) :
    fieldViolations path kind (.object entries) = [] ↔ FieldsLegal kind entries := by
  rw [fieldViolations, List.map_eq_nil_iff, (applicable_node kind).findings_eq_nil_iff rules_sound]
  exact ⟨.of_conforms, fun h => h.conforms hkind⟩

/-! ### Documents without violations -/

/-- The document is a legal schema node at a depth. -/
inductive Legal (maxDepth : Nat) : Nat → Document → Prop
  | node {depth : Nat} {kind : Kind} {entries : Entries Document} (hdepth : depth ≤ maxDepth)
      (hkind : Node.declaredKind? entries = some kind) (hfields : FieldsLegal kind entries)
      (hbelow : ∀ inner, .object inner ∈ Node.childDocuments kind entries →
        Legal maxDepth (depth + 1) (.object inner)) :
      Legal maxDepth depth (.object entries)

def objectAt (path : Path) : Option Document → List (Path × Document)
  | some (.object inner) => [(path, .object inner)]
  | _ => []

/-- The objects that stand where nodes below a node of a kind belong. -/
def objectsBelow (path : Path) (kind : Kind) (entries : Entries Document) :
    List (Path × Document) :=
  match kind with
  | .dict => ((Node.keyEntries entries).flatMap fun entry =>
      objectAt ((path.join (.key "keys")).join (.key entry.1)) (some entry.2))
      ++ objectAt (path.join (.key "dynamic_keys")) (entries.lookup "dynamic_keys")
  | .list => objectAt (path.join (.key "items")) (entries.lookup "items")
  | _ => []

theorem mem_objectAt {place : Path × Document} {value : Option Document} :
    place ∈ objectAt path value ↔ place.1 = path ∧ value = some place.2 ∧ ∃ inner,
      place.2 = .object inner := by
  obtain ⟨at', document⟩ := place
  unfold objectAt
  split
  · simp only [List.mem_singleton, Prod.mk.injEq, Option.some.injEq]
    constructor
    · rintro ⟨rfl, rfl⟩
      exact ⟨rfl, rfl, _, rfl⟩
    · rintro ⟨rfl, rfl, -⟩
      exact ⟨rfl, rfl⟩
  · rename_i hnot
    simp only [List.not_mem_nil, false_iff]
    rintro ⟨-, rfl, inner, rfl⟩
    exact hnot inner rfl

theorem exists_mem_objectsBelow : (∃ place, (place, document) ∈ objectsBelow path kind entries) ↔
    document ∈ Node.childDocuments kind entries ∧ ∃ inner, document = .object inner := by
  cases kind with
  | str | int | bool => simp [objectsBelow, Node.childDocuments]
  | list => simp [objectsBelow, Node.childDocuments, mem_objectAt]
  | dict =>
    simp only [objectsBelow, Node.childDocuments, List.mem_append, List.mem_flatMap, mem_objectAt,
      List.mem_map, Option.mem_toList, Option.some.injEq]
    constructor
    · rintro ⟨place, ⟨entry, hentry, -, rfl, hobject⟩ | ⟨-, hvalue, hobject⟩⟩
      · exact ⟨.inl ⟨entry, hentry, rfl⟩, hobject⟩
      · exact ⟨.inr hvalue, hobject⟩
    · rintro ⟨⟨entry, hentry, rfl⟩ | hvalue, hobject⟩
      · exact ⟨_, .inl ⟨entry, hentry, rfl, rfl, hobject⟩⟩
      · exact ⟨_, .inr ⟨rfl, hvalue, hobject⟩⟩

theorem nodeViolations_eq {name : String} : nodeViolations maxDepth depth path name entries =
    (objectAt (path.join (.key name)) (entries.lookup name)).flatMap fun place =>
      violations maxDepth depth place.1 place.2 := by
  induction entries with
  | nil => simp [nodeViolations, objectAt]
  | cons entry rest ih =>
    obtain ⟨key, value⟩ := entry
    rw [nodeViolations.eq_def]
    dsimp only
    rw [List.lookup_cons]
    cases name == key with
    | false => exact ih
    | true => cases value <;> simp [objectAt]

theorem childViolations_eq : childViolations maxDepth depth path entries =
    (entries.flatMap fun entry => objectAt (path.join (.key entry.1)) (some entry.2)).flatMap
      fun place =>
      violations maxDepth depth place.1 place.2 := by
  induction entries with
  | nil => simp [childViolations]
  | cons entry rest ih =>
    obtain ⟨key, value⟩ := entry
    rw [childViolations.eq_def]
    dsimp only
    rw [ih, List.flatMap_cons, List.flatMap_append]
    cases value <;> simp [objectAt]

theorem keysViolations_eq : keysViolations maxDepth depth path entries =
    childViolations maxDepth depth (path.join (.key "keys")) (Node.keyEntries entries) := by
  induction entries with
  | nil => simp [keysViolations, childViolations, Node.keyEntries]
  | cons entry rest ih =>
    obtain ⟨key, value⟩ := entry
    rw [keysViolations.eq_def]
    dsimp only
    rw [Node.keyEntries, List.lookup_cons]
    cases "keys" == key with
    | false => exact ih
    | true => cases value <;> simp [childViolations]

/-- A node of a known type has the violations of its fields and those of the objects below it. -/
theorem violations_object (hdepth : depth ≤ maxDepth)
    (hkind : Node.declaredKind? entries = some kind) :
    violations maxDepth depth path (.object entries) =
      fieldViolations path kind (.object entries) ++
      (objectsBelow path kind entries).flatMap fun place =>
        violations maxDepth (depth + 1) place.1 place.2 := by
  obtain ⟨value, htype, hvalue⟩ := Option.bind_eq_some_iff.1 hkind
  obtain ⟨name, htext, hname⟩ := Option.bind_eq_some_iff.1 hvalue
  cases value with
  | string text =>
    cases htext
    rw [violations, if_neg (Nat.not_lt.2 hdepth), htype]
    simp only [hname]
    congr 1
    cases kind with
    | str | int | bool => rfl
    | list => exact nodeViolations_eq
    | dict =>
      simp only [keysViolations_eq, childViolations_eq, nodeViolations_eq, objectsBelow,
        List.flatMap_append]
  | _ => cases htext

/-- The document is an object of a known type, and does not lie too deep. -/
def IsTyped (maxDepth depth : Nat) (document : Document) : Prop :=
  depth ≤ maxDepth ∧ ∃ entries kind, document = .object entries ∧
    Node.declaredKind? entries = some kind

/-- Any other document has just one violation, and nothing in it is looked at. -/
theorem exists_violations_eq (h : ¬ IsTyped maxDepth depth document) :
    ∃ error, violations maxDepth depth path document = [error] ∧ error.OfDocument := by
  by_cases hdepth : depth > maxDepth
  · refine ⟨.depthExceeded path maxDepth, ?_, .depthExceeded⟩
    cases document <;> rw [violations.eq_def] <;> exact if_pos hdepth
  · cases document with
    | object entries =>
      have hnone : Node.declaredKind? entries = none := by
        apply Option.eq_none_iff_forall_ne_some.2
        intro kind hkind
        exact h ⟨Nat.le_of_not_gt hdepth, entries, kind, rfl, hkind⟩
      rw [violations, if_neg hdepth]
      cases htype : entries.lookup "type" with
      | none => exact ⟨_, rfl, .violation⟩
      | some value =>
        rw [Node.declaredKind?, htype] at hnone
        cases value with
        | string name =>
          have hname : Kind.ofName? name = none := hnone
          simp only [hname]
          exact ⟨_, rfl, .violation⟩
        | _ => exact ⟨_, rfl, .violation⟩
    | _ =>
      rw [violations.eq_def]
      dsimp only
      rw [if_neg hdepth]
      exact ⟨_, rfl, .violation⟩

theorem violations_eq_nil_iff :
    violations maxDepth depth path document = [] ↔ Legal maxDepth depth document := by
  induction document using Document.inductionOnNodes generalizing depth path with
  | h document ih =>
    by_cases htyped : IsTyped maxDepth depth document
    · obtain ⟨hdepth, entries, kind, rfl, hkind⟩ := htyped
      rw [violations_object hdepth hkind, List.append_eq_nil_iff, fieldViolations_eq_nil_iff hkind,
        List.flatMap_eq_nil_iff]
      constructor
      · rintro ⟨hfields, hbelow⟩
        refine .node hdepth hkind hfields fun inner hinner => ?_
        have hplace : ∃ place, (place, Document.object inner) ∈ objectsBelow path kind entries :=
          exists_mem_objectsBelow.2 ⟨hinner, inner, rfl⟩
        obtain ⟨place, hplace⟩ := hplace
        exact (ih entries kind _ rfl hinner).1 (hbelow _ hplace)
      · rintro ⟨-, hkind', hfields, hbelow⟩
        cases hkind.symm.trans hkind'
        refine ⟨hfields, fun place hplace => ?_⟩
        obtain ⟨hinner, inner, hobject⟩ := exists_mem_objectsBelow.1 ⟨place.1, hplace⟩
        exact (ih entries kind place.2 rfl hinner).2 (hobject ▸ hbelow inner (hobject ▸ hinner))
    · obtain ⟨error, herror, -⟩ := exists_violations_eq htyped
      rw [herror]
      refine iff_of_false (by simp) ?_
      rintro ⟨hdepth, hkind, -, -⟩
      exact htyped ⟨hdepth, _, _, rfl, hkind⟩

theorem ofDocument_of_mem_violations {error : SchemaError}
    (h : error ∈ violations maxDepth depth path document) :
    error.OfDocument := by
  induction document using Document.inductionOnNodes generalizing depth path with
  | h document ih =>
    by_cases htyped : IsTyped maxDepth depth document
    · obtain ⟨hdepth, entries, kind, rfl, hkind⟩ := htyped
      rw [violations_object hdepth hkind, List.mem_append, List.mem_flatMap] at h
      rcases h with h | ⟨place, hplace, h⟩
      · obtain ⟨finding, -, rfl⟩ := List.mem_map.1 h
        exact .violation
      · exact ih entries kind place.2 rfl (exists_mem_objectsBelow.1 ⟨place.1, hplace⟩).1 h
    · obtain ⟨only, honly, hof⟩ := exists_violations_eq htyped
      rw [honly, List.mem_singleton] at h
      exact h ▸ hof

theorem check_eq_nil_iff : check maxDepth document = [] ↔ Legal maxDepth 0 document :=
  violations_eq_nil_iff

theorem ensure_eq_ok_iff : ensure maxDepth document = .ok () ↔ Legal maxDepth 0 document := by
  rw [← check_eq_nil_iff, ensure]
  cases check maxDepth document <;> simp

theorem ofDocument_of_ensure {error : SchemaError} (h : ensure maxDepth document = .error error) :
    error.OfDocument := by
  rw [ensure] at h
  split at h
  · cases h
  · rename_i first rest hcheck
    cases h
    have hmem : error ∈ check maxDepth document := by simp [hcheck]
    exact ofDocument_of_mem_violations hmem

namespace Legal

variable {node inner : Node}

theorem depth_le (h : Legal maxDepth depth document) : depth ≤ maxDepth := by
  cases h
  assumption

theorem exists_of_mem_children (h : Legal maxDepth depth document)
    (hread : Node.ofDocument? document = some node) (hinner : inner ∈ node.children) :
    ∃ below, Legal maxDepth (depth + 1) below ∧ Node.ofDocument? below = some inner := by
  cases h with
  | node _ hkind _ hbelow =>
    have hreads := Node.ofDocument?_object_eq_some_iff.1 hread
    obtain ⟨below, hmem, hread'⟩ := hreads.exists_of_mem_children hinner
    cases hreads.kind.symm.trans hkind
    cases below with
    | object entries => exact ⟨_, hbelow entries hmem, hread'⟩
    | _ => cases hread'

/-- A field that describes nodes is a field of one kind only, and what it holds is legal. -/
theorem of_lookup {inner : Entries Document} {name : String}
    (h : Legal maxDepth depth (.object entries)) (hname : name = "dynamic_keys" ∨ name = "items")
    (hlookup : entries.lookup name = some (.object inner)) :
    Legal maxDepth (depth + 1) (.object inner) := by
  cases h with
  | @node _ kind _ _ _ hfields hbelow =>
    obtain ⟨rule, hrule, -⟩ := hfields _ _ hlookup
    apply hbelow inner
    rcases hname with rfl | rfl
    · cases kind with
      | dict => exact List.mem_append_right _ (Option.mem_toList.2 hlookup)
      | _ => cases hrule
    · cases kind with
      | list => exact Option.mem_toList.2 hlookup
      | _ => cases hrule

theorem of_lookup_keys {values inner : Entries Document}
    {name : String} (h : Legal maxDepth depth (.object entries))
    (hkeys : entries.lookup "keys" = some (.object values))
    (hlookup : values.lookup name = some (.object inner)) :
    Legal maxDepth (depth + 1) (.object inner) := by
  cases h with
  | @node _ kind _ _ _ hfields hbelow =>
    obtain ⟨rule, hrule, -⟩ := hfields _ _ hkeys
    cases kind with
    | dict =>
      have hkey : (name, .object inner) ∈ Node.keyEntries entries :=
        Node.mem_keyEntries.2 ⟨values, hkeys, Entries.mem_of_lookup hlookup⟩
      exact hbelow inner (List.mem_append_left _ (List.mem_map_of_mem hkey))
    | _ => cases hrule

/-- The nodes of keys are objects or null, so together they do not look like a node. -/
theorem unread_keys {value : Document} (h : Legal maxDepth depth (.object entries))
    (hkeys : entries.lookup "keys" = some value) :
    Node.ofDocument? value = none := by
  cases h with
  | @node _ kind _ _ _ hfields _ =>
    obtain ⟨rule, hrule, hconforms⟩ := hfields _ _ hkeys
    cases kind with
    | dict =>
      cases hrule
      cases hconforms with
      | null => rfl
      | @dict _ _ _ _ _ values _ _ hdynamic =>
        apply Option.eq_none_iff_forall_ne_some.2
        intro node hread
        obtain ⟨document, htype, hname⟩ :=
          Option.bind_eq_some_iff.1 (Node.ofDocument?_object_eq_some_iff.1 hread).kind
        cases hdynamic "type" document (Entries.mem_of_lookup htype) (by simp) _ rfl <;> cases hname
    | _ => cases hrule

theorem ne_object_of_lookup {key : String} {value : Document}
    (h : Legal maxDepth depth (.object entries)) (hlookup : entries.lookup key = some value)
    (hkey : key ∉ ["default", "keys", "dynamic_keys", "items"]) (inner : Entries Document) :
    value ≠ .object inner := by
  rintro rfl
  cases h with
  | @node _ kind _ _ _ hfields _ =>
    obtain ⟨rule, hrule, hconforms⟩ := hfields _ _ hlookup
    have hdict : ∃ keys : List (String × Node), (∀ key, field? kind key = keys.lookup key) ∧
        ∀ entry ∈ keys, entry.2.kind = .dict →
          entry.1 ∈ ["default", "keys", "dynamic_keys", "items"] := by
      cases kind <;> exact ⟨_, fun _ => rfl, by decide⟩
    obtain ⟨keys, hfield, hdict⟩ := hdict
    rw [hfield] at hrule
    apply hkey (hdict _ (Entries.mem_of_lookup hrule) _)
    cases hconforms
    rfl

theorem fitsWithin (h : Legal maxDepth depth document)
    (hread : Node.ofDocument? document = some node) :
    node.FitsWithin (maxDepth + 1 - depth) := by
  induction node using Node.inductionOnChildren generalizing depth document with
  | h node ih =>
    rw [Nat.succ_sub h.depth_le]
    intro inner hinner
    obtain ⟨below, hbelow, hread'⟩ := h.exists_of_mem_children hread hinner
    have hfits := ih inner hinner hbelow hread'
    rwa [Nat.succ_sub_succ] at hfits

end Legal

end MetaSchema

end DataSchema
