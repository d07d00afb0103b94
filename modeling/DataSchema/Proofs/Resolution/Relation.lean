import Mathlib.Data.List.Forall2
import DataSchema.Proofs.Node.Fields
import DataSchema.Proofs.Resolution.WellFormed

/-!
# Resolution as a relation

`Resolves` says which tree a node is resolved to, and nothing about how: no paths, which only show
in errors, and no patterns collected on the way. A run of the resolution succeeds exactly when there
is such a tree, and returns it, whatever was compiled before. The proofs about what resolution does
to a node start from here and do not open its runs.
-/

namespace DataSchema

namespace Resolution

/-- A text node passes its checks: the format is registered and the pattern compiles. -/
structure Accepts (formats : Formats) (c : TextConstraints) : Prop where
  format : ∀ format ∈ c.format, formats.contains format = true
  pattern : ∀ source ∈ c.patternSource?, ∃ compiled, Pattern.ofSource? source = some compiled

/-- The reference of a node, if it has one, is replaced by its target. -/
inductive Expands (store : Store) (guarded : Bool) (inProgress : List String)
    (resolves : List String → Node → Node → Prop) (node : Node) : Node → Prop
  | plain (hplain : node.attributes.reference = none) :
      Expands store guarded inProgress resolves node node
  | target {reference : String} {fragment target expanded : Node}
      (hreference : node.attributes.reference = some reference)
      (hnew : guarded = true → reference ∉ inProgress)
      (hfragment : store.fragment reference = .ok fragment)
      (htarget : resolves (inProgress ++ [reference]) fragment target)
      (hmerged : target.merged? .overlayFirst node.ownFields = some expanded) :
      Expands store guarded inProgress resolves node expanded

def KeyResolves (resolves : Node → Node → Prop) (declared resolved : String × Node) : Prop :=
  declared.1 = resolved.1 ∧ resolves declared.2 resolved.2

/-- What lies below a node is resolved, and the node passes its checks. -/
inductive Descends (formats : Formats) (resolves : Node → Node → Prop) : Node → Node → Prop
  | str {a c} (haccepts : Accepts formats c) : Descends formats resolves (.str a c) (.str a c)
  | int {a c} : Descends formats resolves (.int a c) (.int a c)
  | bool {a c} : Descends formats resolves (.bool a c) (.bool a c)
  | dict {a keys keys' dynamicKeys dynamicKeys' other}
      (hkeys : Option.Rel (List.Forall₂ (KeyResolves resolves)) keys keys')
      (hdynamic : Option.Rel resolves dynamicKeys dynamicKeys') :
      Descends formats resolves (.dict a keys dynamicKeys other) (.dict a keys' dynamicKeys' other)
  | list {a items items' c} (hitems : Option.Rel resolves items items')
      (hkey : checkPrimaryKey [] items' c = .ok ()) :
      Descends formats resolves (.list a items c) (.list a items' c)

/-- The tree that a node is resolved to within a number of levels. -/
def Resolves (around : Surroundings) (guarded : Bool) : Nat → List String → Node → Node → Prop
  | 0, _, _, _ => False
  | room + 1, inProgress, node, result => ∃ expanded,
      Expands around.store guarded inProgress (Resolves around guarded room) node expanded ∧
      Descends around.formats (Resolves around guarded room inProgress) expanded result

/-! ### Runs and what they return -/

/-- From sound patterns, a run leaves sound patterns, and it returns what
is said and nothing else. -/
def Returns {α : Type} (run : Resolving α) (result : α → Prop) : Prop :=
  ∀ before : Patterns, before.Sound →
    (∀ a after, run before = .ok (a, after) → after.Sound ∧ result a) ∧
    ∀ a, result a → ∃ after, run before = .ok (a, after)

section

variable {α β : Type} {run : Resolving α} {result : α → Prop}

theorem Returns.congr {result' : α → Prop} (h : Returns run result)
    (heq : ∀ a, result a ↔ result' a) :
    Returns run result' := by
  have hsame : result = result' := funext fun a => propext (heq a)
  exact hsame ▸ h

theorem returns_pure (a : α) : Returns (pure a) (a = ·) := by
  intro before hsound
  constructor
  · intro b after h
    obtain ⟨heq, rfl⟩ := run_pure_eq_ok.1 h
    exact ⟨hsound, heq⟩
  · rintro b rfl
    exact ⟨before, rfl⟩

theorem returns_fail (error : SchemaError) (next : α → Resolving β) :
    Returns (fail error >>= next) fun _ => False := by
  intro before hsound
  constructor
  · intro b after h
    obtain ⟨_, _, hfail, -⟩ := run_bind_eq_ok.1 h
    cases hfail
  · intro b h
    exact h.elim

theorem returns_lift (outcome : Except SchemaError α) :
    Returns (lift outcome) (outcome = .ok ·) := by
  intro before hsound
  constructor
  · intro a after h
    obtain ⟨heq, rfl⟩ := run_lift_eq_ok.1 h
    exact ⟨hsound, heq⟩
  · rintro a rfl
    exact ⟨before, rfl⟩

theorem Returns.bind {next : α → Resolving β} {result' : α → β → Prop} (h : Returns run result)
    (hnext : ∀ a, result a → Returns (next a) (result' a)) :
    Returns (run >>= next) fun b => ∃ a, result a ∧ result' a b := by
  intro before hsound
  constructor
  · intro b after hrun
    obtain ⟨a, middle, hfirst, hsecond⟩ := run_bind_eq_ok.1 hrun
    obtain ⟨hmiddle, ha⟩ := (h before hsound).1 a middle hfirst
    obtain ⟨hafter, hb⟩ := (hnext a ha middle hmiddle).1 b after hsecond
    exact ⟨hafter, a, ha, hb⟩
  · rintro b ⟨a, ha, hb⟩
    obtain ⟨middle, hfirst⟩ := (h before hsound).2 a ha
    have hmiddle := ((h before hsound).1 a middle hfirst).1
    obtain ⟨after, hsecond⟩ := (hnext a ha middle hmiddle).2 b hb
    exact ⟨after, run_bind_eq_ok.2 ⟨a, middle, hfirst, hsecond⟩⟩

end

/-! ### The parts of a resolution -/

theorem returns_compile (path : Path) (c : TextConstraints) : Returns (compile path c) fun _ =>
    ∀ source ∈ c.patternSource?, ∃ compiled, Pattern.ofSource? source = some compiled := by
  intro before hsound
  constructor
  · intro _ after h
    obtain ⟨hgrows, hknown⟩ := compile_outcome h
    have hafter := hgrows.sound hsound
    refine ⟨hafter, fun source hsource => ?_⟩
    obtain ⟨compiled, hlookup⟩ := Option.isSome_iff_exists.1 (hknown source hsource)
    exact ⟨compiled, hafter source compiled hlookup⟩
  · intro _ hcompiles
    unfold compile
    split
    · rename_i source _ hsource
      obtain ⟨compiled, hcompiled⟩ := hcompiles source hsource
      split
      · exact ⟨before, rfl⟩
      · rw [hcompiled]
        exact ⟨_, rfl⟩
    · exact ⟨before, rfl⟩

theorem checkFormat_eq_ok_iff {formats : Formats} {path : Path} {c : TextConstraints} :
    checkFormat formats path c = .ok () ↔ ∀ format ∈ c.format, formats.contains format = true := by
  refine ⟨checkFormat_eq_ok, fun h => ?_⟩
  rw [checkFormat]
  split
  · rename_i format hformat
    rw [if_pos (h format hformat)]
  · rfl

theorem checkPrimaryKey_eq_ok_iff {path : Path} {items : Option Node} {c : ListConstraints} :
    checkPrimaryKey path items c = .ok () ↔ checkPrimaryKey [] items c = .ok () := by
  unfold checkPrimaryKey
  split
  · split <;> simp
  · rfl

theorem overlay_eq_ok_iff {reference : String} {path : Path} {target own expanded : Node} :
    overlay reference path target own = .ok expanded ↔
      target.merged? .overlayFirst own = some expanded := by
  unfold overlay
  by_cases hkind : target.kind = own.kind
  · rw [if_pos hkind, mapError_eq_ok]
    exact Node.merge_eq_ok_iff
  · rw [if_neg hkind, Node.merged?_of_kind_ne hkind]
    simp

section

variable {formats : Formats} {run : Path → Node → Resolving Node} {resolves : Node → Node → Prop}

theorem returns_eachKey (hrun : ∀ path node, Returns (run path node) (resolves node)) (path : Path)
    (keys : List (String × Node)) :
    Returns (eachKey run path keys) (List.Forall₂ (KeyResolves resolves) keys) := by
  induction keys with
  | nil =>
    refine (returns_pure []).congr fun result => ?_
    rw [List.forall₂_nil_left_iff]
    exact eq_comm
  | cons declared rest ih =>
    obtain ⟨key, node⟩ := declared
    have hcons := (hrun (path.join (.key key)) node).bind fun resolved _ =>
      ih.bind fun others _ => returns_pure ((key, resolved) :: others)
    refine hcons.congr fun result => ?_
    rw [List.forall₂_cons_left_iff]
    constructor
    · rintro ⟨resolved, hresolved, others, hothers, rfl⟩
      exact ⟨(key, resolved), others, ⟨rfl, hresolved⟩, hothers, rfl⟩
    · rintro ⟨⟨_, resolved⟩, others, ⟨rfl, hresolved⟩, hothers, rfl⟩
      exact ⟨resolved, hresolved, others, hothers, rfl⟩

theorem returns_optional {α : Type} {run : α → Resolving α} {resolves : α → α → Prop}
    (hrun : ∀ value, Returns (run value) (resolves value)) (value : Option α) :
    Returns (optional run value) (Option.Rel resolves value) := by
  cases value with
  | none =>
    refine (returns_pure none).congr fun result => ?_
    cases result <;> simp
  | some value =>
    refine ((hrun value).bind fun resolved _ => returns_pure (some resolved)).congr fun result => ?_
    cases result <;> simp

theorem returns_descend (hrun : ∀ path node, Returns (run path node) (resolves node)) (path : Path)
    (node : Node) : Returns (descend formats run path node) (Descends formats resolves node) := by
  cases node with
  | dict a keys dynamicKeys other =>
    have hdict :=
      (returns_optional (returns_eachKey hrun (path.join (.key "keys"))) keys).bind fun keys' _ =>
      (returns_optional (hrun (path.join (.key "dynamic_keys"))) dynamicKeys).bind
        fun dynamicKeys' _ =>
        returns_pure (Node.dict a keys' dynamicKeys' other)
    refine hdict.congr fun result => ?_
    constructor
    · rintro ⟨keys', hkeys, dynamicKeys', hdynamic, rfl⟩
      exact .dict hkeys hdynamic
    · rintro (_ | _ | _ | ⟨hkeys, hdynamic⟩)
      exact ⟨_, hkeys, _, hdynamic, rfl⟩
  | list a items c =>
    have hlist := (returns_optional (hrun (path.join (.key "items"))) items).bind fun items' _ =>
      (returns_lift (checkPrimaryKey path items' c)).bind fun _ _ =>
        returns_pure (Node.list a items' c)
    refine hlist.congr fun result => ?_
    constructor
    · rintro ⟨items', hitems, _, hkey, rfl⟩
      exact .list hitems (checkPrimaryKey_eq_ok_iff.1 hkey)
    · rintro (_ | _ | _ | _ | ⟨hitems, hkey⟩)
      exact ⟨_, hitems, (), checkPrimaryKey_eq_ok_iff.2 hkey, rfl⟩
  | str a c =>
    have hstr := (returns_lift (checkFormat formats path c)).bind fun _ _ =>
      (returns_compile path c).bind fun _ _ => returns_pure (Node.str a c)
    refine hstr.congr fun result => ?_
    constructor
    · rintro ⟨_, hformat, _, hpattern, rfl⟩
      exact .str ⟨checkFormat_eq_ok hformat, hpattern⟩
    · rintro ⟨haccepts⟩
      exact ⟨(), checkFormat_eq_ok_iff.2 haccepts.format, (), haccepts.pattern, rfl⟩
  | int a c =>
    refine (returns_pure (Node.int a c)).congr fun result => ?_
    constructor
    · rintro rfl
      exact .int
    · rintro ⟨⟩
      rfl
  | bool a c =>
    refine (returns_pure (Node.bool a c)).congr fun result => ?_
    constructor
    · rintro rfl
      exact .bool
    · rintro ⟨⟩
      rfl

end

theorem returns_expand {around : Surroundings} {guarded : Bool} {inProgress : List String}
    {run : List String → Node → Resolving Node} {resolves : List String → Node → Node → Prop}
    (hrun : ∀ inProgress node, Returns (run inProgress node) (resolves inProgress node))
    (path : Path) (node : Node) : Returns (expand around guarded inProgress run path node)
      (Expands around.store guarded inProgress resolves node) := by
  unfold expand
  cases hreference : node.attributes.reference with
  | none =>
    refine (returns_pure node).congr fun result => ?_
    constructor
    · rintro rfl
      exact .plain hreference
    · rintro (_ | ⟨hsome⟩)
      · rfl
      · simp [hreference] at hsome
  | some reference =>
    dsimp only
    split
    · rename_i hcycle
      rw [Bool.and_eq_true, List.contains_iff_mem] at hcycle
      refine (returns_fail _ _).congr fun result => ?_
      constructor
      · exact False.elim
      · rintro (hplain | ⟨hsome, hnew⟩)
        · simp [hreference] at hplain
        · cases hreference.symm.trans hsome
          exact hnew hcycle.1 hcycle.2
    · rename_i hcycle
      rw [Bool.and_eq_true, List.contains_iff_mem, not_and] at hcycle
      have hexpand := (returns_lift (around.store.fragment reference)).bind fun fragment _ =>
        (hrun (inProgress ++ [reference]) fragment).bind fun target _ =>
          returns_lift (overlay reference path target node.ownFields)
      refine hexpand.congr fun result => ?_
      constructor
      · rintro ⟨fragment, hfragment, target, htarget, hoverlay⟩
        exact .target hreference hcycle hfragment htarget (overlay_eq_ok_iff.1 hoverlay)
      · rintro (hplain | ⟨hsome, -, hfragment, htarget, hmerged⟩)
        · simp [hreference] at hplain
        · cases hreference.symm.trans hsome
          exact ⟨_, hfragment, _, htarget, overlay_eq_ok_iff.2 hmerged⟩

theorem returns_resolveWithin (around : Surroundings) (guarded : Bool) (room : Nat)
    (inProgress : List String) (path : Path) (node : Node) :
    Returns (resolveWithin around guarded room inProgress path node)
      (Resolves around guarded room inProgress node) := by
  induction room generalizing inProgress path node with
  | zero =>
    intro before hsound
    constructor
    · intro result after h
      rw [resolveWithin] at h
      cases h
    · intro result h
      exact h.elim
  | succ room ih =>
    rw [resolveWithin]
    exact (returns_expand (fun inProgress => ih inProgress path) path node).bind fun expanded _ =>
      returns_descend (ih inProgress) path expanded

/-! ### One position after the other -/

variable {around : Surroundings} {guarded : Bool} {room : Nat} {inProgress : List String}
  {node result : Node}

theorem KeyResolves.lookup {resolves : Node → Node → Prop} {keys resolved : List (String × Node)}
    (h : List.Forall₂ (KeyResolves resolves) keys resolved) (name : String) :
    Option.Rel resolves (keys.lookup name) (resolved.lookup name) :=
  Entries.rel_lookup h name

section

variable {formats : Formats} {resolves : Node → Node → Prop}

theorem Descends.kind (h : Descends formats resolves node result) : result.kind = node.kind := by
  cases h <;> rfl

theorem Descends.reference (h : Descends formats resolves node result) :
    result.attributes.reference = node.attributes.reference := by
  cases h <;> rfl

theorem Descends.scalar? (h : Descends formats resolves node result) (field : ScalarField) :
    result.scalar? field = node.scalar? field := by
  cases h <;> cases field <;> rfl

theorem Descends.listed? (h : Descends formats resolves node result) (field : ListField) :
    result.listed? field = node.listed? field := by
  cases h <;> cases field <;> rfl

theorem Descends.below? (h : Descends formats resolves node result) (step : Step) :
    Option.Rel resolves (node.below? step) (result.below? step) := by
  cases h with
  | dict hkeys hdynamic =>
    cases step with
    | key name =>
      cases hkeys with
      | some hkeys => exact KeyResolves.lookup hkeys name
      | none => exact .none
    | dynamicKeys => exact hdynamic
    | items => exact .none
  | list hitems =>
    cases step with
    | items => exact hitems
    | _ => exact .none
  | _ => cases step <;> exact .none

theorem Descends.keyNames? (h : Descends formats resolves node result) :
    result.keyNames? = node.keyNames? := by
  cases h with
  | dict hkeys =>
    cases hkeys with
    | none => rfl
    | some hkeys => exact congrArg some (Entries.map_fst_eq_of_forall₂ hkeys)
  | _ => rfl

end

theorem Resolves.wellFormed (hstore : around.store.WellFormed) (hnode : node.WellFormed)
    (h : Resolves around guarded room inProgress node result) : result.WellFormed := by
  have hempty : Patterns.Sound [] := by simp [Patterns.Sound]
  obtain ⟨patterns, hrun⟩ :=
    (returns_resolveWithin around guarded room inProgress [] node [] hempty).2 result h
  exact resolveWithin_wellFormed hstore room inProgress [] hnode _ _ _ hrun

theorem Expands.wellFormed (hstore : around.store.WellFormed) (hnode : node.WellFormed)
    (h : Expands around.store guarded inProgress (Resolves around guarded room) node result) :
    result.WellFormed := by
  cases h with
  | plain => exact hnode
  | target _ _ hfragment htarget hmerged =>
    have hwellFormed := htarget.wellFormed hstore (Store.fragment_wellFormed hstore hfragment)
    exact hwellFormed.merged? hnode.ownFields hmerged

end Resolution

open Resolution

/-- Resolving a node succeeds with a tree exactly when the node is resolved to it. -/
theorem Node.exists_resolve_iff {node result : Node} {around : Surroundings} :
    (∃ patterns, node.resolve around = .ok (result, patterns)) ↔
      Resolves around true (around.maxDepth + 1) [] node result := by
  have hempty : Patterns.Sound [] := by simp [Patterns.Sound]
  have hreturns := returns_resolveWithin around true (around.maxDepth + 1) [] [] node [] hempty
  constructor
  · rintro ⟨patterns, h⟩
    exact (hreturns.1 result patterns h).2
  · exact hreturns.2 result

end DataSchema
