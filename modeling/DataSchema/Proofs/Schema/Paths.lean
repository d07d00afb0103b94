import DataSchema.Proofs.Merge.Mismatch
import DataSchema.Proofs.Schema.KeyedLists
import DataSchema.Proofs.Validation.Origins

/-!
# Paths of findings

The path of a finding addresses the instance and the schema at once: it leads to the value to blame,
and, with its indexes in decimal, navigation goes along it to the node that governs the place. There
is nothing to navigate to in two cases: a dict does not describe the key that is reported as
unknown, and a list without a schema for its elements can tell that a primary key is repeated, but
knows nothing of the element.
-/

namespace DataSchema

open Validation

/-! ### Navigation along a path -/

namespace Schema

variable {node target : Node} {path : Path} {taken : List String}

theorem stepBelow?_of_kind {name : String} (h : node.kind = .dict) :
    stepBelow? node name = node.child? name := by
  cases node <;> first | rfl | cases h

theorem stepBelow?_of_child? {child : Node} {name : String} (h : node.child? name = some child) :
    stepBelow? node name = some child := by
  cases node <;> first | exact h | cases h

theorem stepBelow?_list {a : Attributes} {items : Option Node} {c : ListConstraints}
    {position : Nat} (h : position < wordCount) :
    stepBelow? (.list a items c) (Segment.index position).step = items := by
  rw [stepBelow?, if_pos (isIndex_step h)]

/-- Navigation takes the steps that lead from a node to the nodes that govern. -/
theorem navigate_append_of_governing? {rest : List String} (h : node.governing? path = some target)
    (hpath : ∀ position, .index position ∈ path → position < wordCount) :
    navigate node taken (path.map Segment.step ++ rest) =
      navigate target (taken ++ path.map Segment.step) rest := by
  induction path generalizing node taken with
  | nil =>
    cases h
    rw [List.map_nil, List.append_nil, List.nil_append]
  | cons segment path ih =>
    have hbelow : ∀ next, stepBelow? node segment.step = some next →
        next.governing? path = some target →
        navigate node taken ((segment :: path).map Segment.step ++ rest) =
          navigate target (taken ++ (segment :: path).map Segment.step) rest := by
      intro next hnext hgoverned
      rw [List.map_cons, List.cons_append, navigate, hnext]
      dsimp only
      rw [ih hgoverned fun position hmem => hpath position (List.mem_cons_of_mem _ hmem),
        List.append_assoc]
      rfl
    cases segment with
    | key name =>
      obtain ⟨child, hchild, hgoverned⟩ := Option.bind_eq_some_iff.1 h
      exact hbelow child (stepBelow?_of_child? hchild) hgoverned
    | index position =>
      obtain ⟨item, hitem, hgoverned⟩ := Option.bind_eq_some_iff.1 h
      cases node with
      | list a items c =>
        exact hbelow item ((stepBelow?_list (hpath position List.mem_cons_self)).trans hitem)
          hgoverned
      | _ => cases hitem

theorem navigate_of_governing? (h : node.governing? path = some target)
    (hpath : ∀ position, .index position ∈ path → position < wordCount) :
    navigate node taken (path.map Segment.step) = .ok target := by
  have hsteps : navigate node taken (path.map Segment.step ++ []) =
      navigate target (taken ++ path.map Segment.step) [] :=
    navigate_append_of_governing? h hpath
  rwa [List.append_nil, navigate] at hsteps

end Schema

/-! ### What the cases of a finding say about its path -/

theorem Node.exists_child?_of_staticKey? {node : Node} {key : String}
    (h : (node.staticKey? key).isSome) :
    ∃ child, node.child? key = some child := by
  cases node with
  | dict a keys dynamicKeys other =>
    cases keys with
    | none => cases h
    | some keys =>
      obtain ⟨child, hchild⟩ := Option.isSome_iff_exists.1 h
      exact ⟨child, Option.or_eq_some_iff.2 (.inl hchild)⟩
  | _ => cases h

namespace Finding.ArisesAt

variable {rules : Rules} {node : Node} {value : Document} {finding : Finding}

theorem atPath?_of_offending? {offending : Document} (h : ArisesAt rules node value finding)
    (hoffending : finding.problem.offending? = some offending) :
    value.atPath? finding.path = some offending := by
  cases h with
  | wrongKind => exact hoffending
  | constraint hproblem =>
    exact congrArg some ((Node.of_mem_constraintProblems hproblem).1 _ hoffending).symm
  | missingKey => cases hoffending
  | unknownKey _ _ hlookup =>
    cases hoffending
    exact Option.bind_eq_some_iff.2 ⟨_, hlookup, rfl⟩
  | nullElement _ hposition =>
    cases hoffending
    exact Option.bind_eq_some_iff.2 ⟨_, hposition, rfl⟩
  | repeatedKey _ hposition hheld =>
    cases hoffending
    exact Option.bind_eq_some_iff.2 ⟨_, hposition,
      Option.bind_eq_some_iff.2 ⟨_, (Document.getSet?_eq_some.1 hheld).1, rfl⟩⟩

theorem exists_of_missingRequired (h : ArisesAt rules node value finding)
    (hcategory : finding.problem.category = .missingRequired) :
    ∃ entries key, value = .object entries ∧ finding.path = [.key key] ∧ ∀ held,
      entries.lookup key = some held → held = .null := by
  cases h with
  | missingKey _ hunset => exact ⟨_, _, rfl, rfl, hunset⟩
  | constraint hproblem =>
    exact absurd hcategory (ne_of_mem_of_not_mem
      (Node.of_mem_constraintProblems hproblem).2 (by decide))
  | _ => cases hcategory

theorem exists_of_unknownKey (h : ArisesAt rules node value finding)
    (hcategory : finding.problem.category = .unknownKey) :
    ∃ key, finding.path = [.key key] ∧ node.kind = .dict ∧ node.child? key = none := by
  cases h with
  | unknownKey hkind hchild => exact ⟨_, rfl, hkind, hchild⟩
  | constraint hproblem =>
    exact absurd hcategory (ne_of_mem_of_not_mem
      (Node.of_mem_constraintProblems hproblem).2 (by decide))
  | _ => cases hcategory

/-- Unless a key is not known, a node governs the place of the finding, or it is an element of a
list that has no schema for it. -/
theorem exists_governing? (h : ArisesAt rules node value finding)
    (hcategory : finding.problem.category ≠ .unknownKey)
    (hstatic : ∀ a item c key, node = .list a (some item) c → c.primaryKey = some key →
      (item.staticKey? key).isSome) :
    (∃ target, node.governing? finding.path = some target) ∨
      finding.problem.category = .duplicateKey ∧ ∃ a c position key, node = .list a none c ∧
        finding.path = [.index position, .key key] := by
  cases h with
  | wrongKind | constraint => exact .inl ⟨node, rfl⟩
  | missingKey hchild => exact .inl ⟨_, Option.bind_eq_some_iff.2 ⟨_, hchild, rfl⟩⟩
  | unknownKey => exact absurd rfl hcategory
  | nullElement hitem => exact .inl ⟨_, Option.bind_eq_some_iff.2 ⟨_, hitem, rfl⟩⟩
  | repeatedKey hkey =>
    obtain ⟨a, c, hlist, hprimary⟩ := Node.eq_list_of_primaryKey? hkey
    cases hitems : node.items? with
    | none => exact .inr ⟨rfl, a, c, _, _, hitems ▸ hlist, rfl⟩
    | some item =>
      obtain ⟨child, hchild⟩ :=
        Node.exists_child?_of_staticKey? (hstatic a item c _ (hitems ▸ hlist) hprimary)
      exact .inl ⟨child, Option.bind_eq_some_iff.2 ⟨item, hitems,
        Option.bind_eq_some_iff.2 ⟨child, hchild, rfl⟩⟩⟩

end Finding.ArisesAt

/-! ### Loaded schemas -/

/-- The finding says that a primary key is repeated in a list without a schema for its elements. -/
def Finding.RepeatsInLooseList (root : Node) (finding : Finding) : Prop :=
  finding.problem.category = .duplicateKey ∧ ∃ path a c position key, root.governing? path =
    some (.list a none c) ∧
    finding.path = path ++ [.index position, .key key]

namespace Schema

variable {node target : Node} {path : Path} {taken : List String}

theorem navigate_eq_pathNotFound {key : String} (h : node.governing? path = some target)
    (hkind : target.kind = .dict) (hchild : target.child? key = none)
    (hpath : ∀ position, .index position ∈ path → position < wordCount) :
    navigate node taken ((path ++ [Segment.key key]).map Segment.step) =
      .error (.pathNotFound (taken ++ (path ++ [Segment.key key]).map Segment.step)) := by
  have hstep : stepBelow? target (Segment.key key).step = none :=
    (stepBelow?_of_kind hkind).trans hchild
  rw [List.map_append, navigate_append_of_governing? h hpath, List.map_singleton, navigate, hstep,
    List.append_assoc]

theorem exists_navigate_eq_error {a : Attributes} {c : ListConstraints} {position : Nat}
    {rest : Path} (h : node.governing? path = some (.list a none c))
    (hpath : ∀ place, .index place ∈ path ++ .index position :: rest → place < wordCount) :
    ∃ error, navigate node taken ((path ++ .index position :: rest).map Segment.step) =
      .error error := by
  have hstep : stepBelow? (.list a none c) (Segment.index position).step = none :=
    stepBelow?_list (hpath position (by simp))
  have hfront : ∀ place, .index place ∈ path → place < wordCount :=
    fun place hmem => hpath place (List.mem_append_left _ hmem)
  rw [List.map_append, navigate_append_of_governing? h hfront, List.map_cons, navigate, hstep]
  exact ⟨_, rfl⟩

end Schema

/-- What a finding says about its path holds of both documents, as long as its indexes are machine
words. Its offending value is at the path; a key that is missing is not set in the object one step
above; and navigation along the path leads to the node that governs the place, except for a key that
no dict describes and for a primary key in a list without a schema for its elements. -/
theorem WellLoaded.addressed_of_mem_validate {schema : Schema}
    {value : Document} {finding : Finding} (h : WellLoaded schema)
    (hvalue : value.WellFormed) (hmem : finding ∈ schema.validate value)
    (hpath : ∀ position, .index position ∈ finding.path → position < wordCount) :
    (∀ offending, finding.problem.offending? = some offending →
      value.atPath? finding.path = some offending) ∧
    (finding.problem.category = .missingRequired →
      ∃ path entries key, finding.path = path ++ [.key key] ∧
      value.atPath? path = some (.object entries) ∧ ∀ held, entries.lookup key = some held →
        held = .null) ∧
    (finding.problem.category = .unknownKey → schema.subschema (finding.path.map Segment.step) =
      .error (.pathNotFound (finding.path.map Segment.step))) ∧
    (finding.RepeatsInLooseList schema.root →
      ∃ error, schema.subschema (finding.path.map Segment.step) = .error error) ∧
    (finding.problem.category ≠ .unknownKey → ¬finding.RepeatsInLooseList schema.root → ∃ node,
      schema.root.governing? finding.path = some node ∧
      schema.subschema (finding.path.map Segment.step) = .ok node) := by
  obtain ⟨path, node, inner, found, hnode, hinner, hfound, rfl⟩ :=
    h.loaded.applicable.arisesIn_of_mem_findings h.root_wellFormed hvalue hmem
  have hfront : ∀ position, .index position ∈ path → position < wordCount :=
    fun position hmem => hpath position (List.mem_append_left _ hmem)
  refine ⟨fun offending hoffending => ?_, fun hcategory => ?_, fun hcategory => ?_, ?_,
    fun hcategory hstrict => ?_⟩
  · have hbelow : inner.atPath? found.path = some offending :=
      hfound.atPath?_of_offending? hoffending
    rw [Finding.under, Document.atPath?_append, hinner, Option.bind_some, hbelow]
  · obtain ⟨entries, key, rfl, hkey, hunset⟩ := hfound.exists_of_missingRequired hcategory
    exact ⟨path, entries, key, congrArg (path ++ ·) hkey, hinner, hunset⟩
  · obtain ⟨key, hkey, hkind, hchild⟩ := hfound.exists_of_unknownKey hcategory
    rw [Finding.under, hkey]
    exact Schema.navigate_eq_pathNotFound hnode hkind hchild hfront
  · rintro ⟨-, place, a, c, position, key, hlist, hplace⟩
    rw [hplace] at hpath ⊢
    exact Schema.exists_navigate_eq_error hlist hpath
  · have hstatic : ∀ a item c key, node = .list a (some item) c → c.primaryKey = some key →
        (item.staticKey? key).isSome := by
      rintro a item c key rfl hkey
      obtain ⟨steps, hsteps⟩ := Node.exists_at?_of_governing? hnode
      exact h.loaded.resolves.staticKey? hsteps hkey
    rcases hfound.exists_governing? hcategory hstatic with ⟨target, htarget⟩
      | ⟨hrepeated, a, c, position, key, rfl, hplace⟩
    · have hgoverned : schema.root.governing? (found.under path).path = some target := by
        rw [Finding.under, Node.governing?_append, hnode, Option.bind_some, htarget]
      exact ⟨target, hgoverned, Schema.navigate_of_governing? hgoverned hpath⟩
    · exact absurd ⟨hrepeated, path, a, c, position, key, hnode,
        congrArg (path ++ ·) hplace⟩ hstrict

def numberedRows : Document :=
  .object [("type", .string "list"), ("primary_key", .string "id"), ("items", .object [
    ("type", .string "dict"), ("keys", .object [("id", .object [("type", .string "int")])])])]

def repeatedRows : Document :=
  .array [.object [("id", .int 7)], .object [("id", .int 7), ("name", .string "x")]]

/-- The number is found under its path in the instance and in the schema, the unknown
key in the instance alone. -/
theorem WellLoaded.addressed_of_mem_validate_rows : ∃ schema, WellLoaded schema ∧
    schema.validate repeatedRows =
      [⟨[.index 1, .key "name"], .unknownKey "name" none (.string "x")⟩,
      ⟨[.index 1, .key "id"], .repeatedKey "id" 0 (.int 7)⟩] ∧
    repeatedRows.atPath? [.index 1, .key "name"] = some (.string "x") ∧
    schema.subschema ["1", "name"] = .error (.pathNotFound ["1", "name"]) ∧
    repeatedRows.atPath? [.index 1, .key "id"] = some (.int 7) ∧
    ∃ node, schema.root.governing? [.index 1, .key "id"] = some node ∧
      schema.subschema ["1", "id"] = .ok node := by
  have hdocument : numberedRows.WellFormed := by
    simp [numberedRows, Document.WellFormed, Document.WellFormedEntries]
  have hrows : repeatedRows.WellFormed := by
    simp [repeatedRows, Document.WellFormed, Document.WellFormedEntries,
      Document.WellFormedElements]
  have hrun : (Loader.standard.load numberedRows).toOption.any (fun schema =>
      schema.root.items?.isSome &&
      schema.validate repeatedRows ==
        [⟨[.index 1, .key "name"], .unknownKey "name" none (.string "x")⟩,
        ⟨[.index 1, .key "id"], .repeatedKey "id" 0 (.int 7)⟩]) = true := by decide +kernel
  obtain ⟨schema, hload, htest⟩ := exists_ok_of_any hrun
  rw [Bool.and_eq_true, beq_iff_eq] at htest
  obtain ⟨hitems, hfindings⟩ := htest
  have hloaded : WellLoaded schema := .of_standard hdocument hload
  have hwords : ∀ (key : String) (position : Nat), .index position ∈ [.index 1, Segment.key key] →
      position < wordCount := by
    intro key position hmem
    simp only [List.mem_cons, Segment.index.injEq, reduceCtorEq, List.not_mem_nil, or_self,
      or_false] at hmem
    subst hmem
    decide
  obtain ⟨hname, -, hunknown, -, -⟩ :=
    hloaded.addressed_of_mem_validate hrows (hfindings ▸ List.mem_cons_self) (hwords "name")
  obtain ⟨hid, -, -, -, hgoverned⟩ :=
    hloaded.addressed_of_mem_validate hrows (hfindings ▸ List.mem_cons_of_mem _ List.mem_cons_self)
      (hwords "id")
  have hstrict : ¬Finding.RepeatsInLooseList schema.root ⟨[.index 1, .key "id"],
      .repeatedKey "id" 0 (.int 7)⟩ := by
    rintro ⟨-, path, a, c, position, key, hlist, hpath⟩
    cases path with
    | nil =>
      rw [Option.some.inj hlist] at hitems
      cases hitems
    | cons => simpa using congrArg List.length hpath
  exact ⟨schema, hloaded, hfindings, hname _ rfl, hunknown rfl, hid _ rfl,
    hgoverned (by decide) hstrict⟩

end DataSchema
