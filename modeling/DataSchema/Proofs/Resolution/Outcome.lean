import DataSchema.Proofs.Validation.Applicable
import DataSchema.Resolution

/-!
# What a resolution leaves behind

A resolution that succeeds returns a tree and the patterns it compiled. Whatever references were
expanded and merged on the way, each node of the returned tree was checked after its last change:
the node stands within the depth limit, its format is registered and its pattern is among the
compiled ones. Patterns are only added, and each is compiled from the source it is stored under.
-/

namespace DataSchema

/-- Every stored pattern is compiled from the source that it is stored under. -/
def Patterns.Sound (patterns : Patterns) : Prop :=
  ∀ source compiled, patterns.lookup source = some compiled →
    Pattern.ofSource? source = some compiled

/-- The patterns after a step of a resolution: more of them, and each compiled from its source. -/
structure Patterns.GrowsTo (before after : Patterns) : Prop where
  isPrefix : before <+: after
  sound : before.Sound → after.Sound

theorem Patterns.GrowsTo.refl (patterns : Patterns) : patterns.GrowsTo patterns :=
  ⟨List.prefix_rfl, id⟩

theorem Patterns.GrowsTo.trans {before middle after : Patterns} (first : before.GrowsTo middle)
    (second : middle.GrowsTo after) :
    before.GrowsTo after := ⟨first.isPrefix.trans second.isPrefix, second.sound ∘ first.sound⟩

def Surroundings.rules (around : Surroundings) (patterns : Patterns) : Rules :=
  ⟨patterns, around.formats, around.maxDepth⟩

theorem Applicable.grow {around : Surroundings} {before after : Patterns} {depth : Nat}
    {node : Node} (h : Applicable (around.rules before) depth node)
    (hgrows : before.GrowsTo after) :
    Applicable (around.rules after) depth node := by
  have hpatterns : (around.rules before).patterns <+: (around.rules after).patterns :=
    hgrows.isPrefix
  exact h.mono hpatterns rfl (Nat.le_refl _) (Nat.le_refl _)

namespace Resolution

/-! ### Computations that collect patterns -/

theorem run_bind_eq_ok {α β : Type} {x : Resolving α} {f : α → Resolving β}
    {before after : Patterns} {b : β} :
    (x >>= f) before = .ok (b, after) ↔ ∃ a middle, x before = .ok (a, middle) ∧
      f a middle = .ok (b, after) := by
  change (x before >>= fun result => f result.1 result.2) = _ ↔ _
  rw [bind_eq_ok, Prod.exists]

theorem run_pure_eq_ok {α : Type} {a b : α} {before after : Patterns} :
    (pure a : Resolving α) before = .ok (b, after) ↔ a = b ∧ before = after := by
  change Except.ok (a, before) = _ ↔ _
  simp

theorem run_lift_eq_ok {α : Type} {result : Except SchemaError α} {a : α}
    {before after : Patterns} :
    lift result before = .ok (a, after) ↔ result = .ok a ∧ before = after := by
  cases result <;> simp [lift, Except.map]

/-! ### The checks of a node -/

theorem compile_outcome {path : Path} {c : TextConstraints} {before after : Patterns}
    (h : compile path c before = .ok ((), after)) :
    before.GrowsTo after ∧ ∀ source ∈ c.patternSource?, (after.lookup source).isSome := by
  unfold compile at h
  split at h
  · rename_i pattern source hpattern hsource
    have honly : ∀ source' ∈ c.patternSource?, source' = source := fun source' hsource' =>
      (Option.some.inj (hsource.symm.trans hsource')).symm
    split at h
    · rename_i compiled hlookup
      cases h
      exact ⟨.refl _, fun source' hsource' => by rw [honly source' hsource', hlookup]; rfl⟩
    · rename_i hlookup
      split at h
      · rename_i compiled hcompiled
        cases h
        have hself : [(source, compiled)].lookup source = some compiled := List.lookup_cons_self
        refine ⟨⟨List.prefix_append _ _, fun hsound source' compiled' hfound => ?_⟩,
          fun source' hsource' => ?_⟩
        · rw [List.lookup_append, Option.or_eq_some_iff] at hfound
          rcases hfound with hold | ⟨-, hnew⟩
          · exact hsound source' compiled' hold
          · rw [List.lookup_cons] at hnew
            split at hnew
            · rename_i heq
              rw [beq_iff_eq.1 heq, hcompiled, hnew]
            · simp at hnew
        · rw [honly source' hsource', List.lookup_append, hlookup, Option.none_or, hself]
          rfl
      · cases h
  · rename_i hnone
    cases h
    refine ⟨.refl _, fun source hsource => ?_⟩
    obtain ⟨pattern, hpattern, -⟩ := Option.map_eq_some_iff.1 hsource
    exact absurd hsource (hnone pattern source hpattern)

theorem checkFormat_eq_ok {formats : Formats} {path : Path} {c : TextConstraints}
    (h : checkFormat formats path c = .ok ()) :
    ∀ format ∈ c.format, formats.contains format := by
  intro format hformat
  rw [checkFormat, hformat] at h
  cases hcontains : formats.contains format with
  | true => rfl
  | false => simp [hcontains] at h

/-! ### One level of a tree -/

/-- Every successful run adds patterns and gives a result that is good under the
rules it leaves behind. -/
def Yields {α : Type} (around : Surroundings) (good : Rules → α → Prop) (run : Resolving α) :
    Prop :=
  ∀ before a after, run before = .ok (a, after) → before.GrowsTo after ∧ good (around.rules after) a

def KeysApplicable (depth : Nat) (rules : Rules) (keys : List (String × Node)) : Prop :=
  ∀ entry ∈ keys, Applicable rules depth entry.2

variable {around : Surroundings} {depth : Nat} {resolve : Path → Node → Resolving Node}

theorem eachKey_yields (hresolve : ∀ path node, Yields around (fun rules => Applicable rules depth)
      (resolve path node)) (path : Path) (keys : List (String × Node)) :
    Yields around (KeysApplicable depth) (eachKey resolve path keys) := by
  induction keys with
  | nil =>
    intro before a after h
    obtain ⟨rfl, rfl⟩ := run_pure_eq_ok.1 h
    exact ⟨.refl _, by simp [KeysApplicable]⟩
  | cons declared rest ih =>
    intro before a after h
    obtain ⟨node, middle, hnode, h⟩ := run_bind_eq_ok.1 h
    obtain ⟨others, last, hothers, h⟩ := run_bind_eq_ok.1 h
    obtain ⟨rfl, rfl⟩ := run_pure_eq_ok.1 h
    obtain ⟨hgrows, happlicable⟩ := hresolve _ _ _ _ _ hnode
    obtain ⟨hgrows', hrest⟩ := ih _ _ _ hothers
    refine ⟨hgrows.trans hgrows', fun entry hentry => ?_⟩
    rcases List.mem_cons.1 hentry with rfl | hentry
    · exact happlicable.grow hgrows'
    · exact hrest entry hentry

theorem optional_eq_ok {α : Type} {resolve : α → Resolving α} {value result : Option α}
    {before after : Patterns} (h : optional resolve value before = .ok (result, after)) :
    value = none ∧ result = none ∧ before = after ∨
      ∃ inner resolved, value = some inner ∧ result = some resolved ∧
        resolve inner before = .ok (resolved, after) := by
  cases value with
  | none =>
    obtain ⟨rfl, rfl⟩ := run_pure_eq_ok.1 h
    exact .inl ⟨rfl, rfl, rfl⟩
  | some inner =>
    obtain ⟨resolved, middle, hresolved, h⟩ := run_bind_eq_ok.1 h
    obtain ⟨rfl, rfl⟩ := run_pure_eq_ok.1 h
    exact .inr ⟨inner, resolved, rfl, rfl, hresolved⟩

theorem optional_yields {α : Type} {good : Rules → α → Prop} {resolve : α → Resolving α}
    (hresolve : ∀ value, Yields around good (resolve value)) (value : Option α) :
    Yields around (fun rules result => ∀ inner ∈ result, good rules inner)
      (optional resolve value) := by
  intro before result after h
  rcases optional_eq_ok h with ⟨-, rfl, rfl⟩ | ⟨inner, resolved, -, rfl, hresolved⟩
  · exact ⟨.refl _, by simp⟩
  · obtain ⟨hgrows, hgood⟩ := hresolve _ _ _ _ hresolved
    exact ⟨hgrows, by simpa using hgood⟩

/-- Below a node of depth `depth` everything is resolved one level deeper, and the node
itself is checked last. -/
theorem descend_yields (hdepth : depth ≤ around.maxDepth)
    (hresolve : ∀ path node, Yields around (fun rules => Applicable rules (depth + 1))
      (resolve path node)) (path : Path) (node : Node) : Yields around
      (fun rules => Applicable rules depth) (descend around.formats resolve path node) := by
  intro before a after h
  cases node with
  | dict _ keys dynamicKeys _ =>
    obtain ⟨keys', middle, hkeys, h⟩ := run_bind_eq_ok.1 h
    obtain ⟨dynamicKeys', last, hdynamic, h⟩ := run_bind_eq_ok.1 h
    obtain ⟨rfl, rfl⟩ := run_pure_eq_ok.1 h
    obtain ⟨hgrows, hkeysGood⟩ := optional_yields (eachKey_yields hresolve _) keys _ _ _ hkeys
    obtain ⟨hgrows', hdynamicGood⟩ := optional_yields (hresolve _) dynamicKeys _ _ _ hdynamic
    refine ⟨hgrows.trans hgrows', .dict hdepth (fun entry hentry => ?_) hdynamicGood⟩
    cases keys' with
    | none => simp at hentry
    | some keys' => exact (hkeysGood keys' rfl entry hentry).grow hgrows'
  | list _ items c =>
    obtain ⟨items', middle, hitems, h⟩ := run_bind_eq_ok.1 h
    obtain ⟨_, middle', hcheck, h⟩ := run_bind_eq_ok.1 h
    obtain ⟨-, rfl⟩ := run_lift_eq_ok.1 hcheck
    obtain ⟨rfl, rfl⟩ := run_pure_eq_ok.1 h
    obtain ⟨hgrows, hitemsGood⟩ := optional_yields (hresolve _) items _ _ _ hitems
    exact ⟨hgrows, .list hdepth hitemsGood⟩
  | str _ c =>
    obtain ⟨_, middle, hcheck, h⟩ := run_bind_eq_ok.1 h
    obtain ⟨hformat, rfl⟩ := run_lift_eq_ok.1 hcheck
    obtain ⟨_, last, hcompile, h⟩ := run_bind_eq_ok.1 h
    obtain ⟨rfl, rfl⟩ := run_pure_eq_ok.1 h
    obtain ⟨hgrows, hpattern⟩ := compile_outcome hcompile
    exact ⟨hgrows, .str hdepth ⟨hpattern, checkFormat_eq_ok hformat⟩⟩
  | int =>
    obtain ⟨rfl, rfl⟩ := run_pure_eq_ok.1 h
    exact ⟨.refl _, .int hdepth⟩
  | bool =>
    obtain ⟨rfl, rfl⟩ := run_pure_eq_ok.1 h
    exact ⟨.refl _, .bool hdepth⟩

theorem expand_grows {guarded : Bool} {inProgress : List String}
    {resolve : List String → Node → Resolving Node} {path : Path}
    {node expanded : Node} {before after : Patterns}
    (hresolve : ∀ inProgress target, Yields around (fun _ _ => True) (resolve inProgress target))
    (h : expand around guarded inProgress resolve path node before = .ok (expanded, after)) :
    before.GrowsTo after := by
  unfold expand at h
  cases hreference : node.attributes.reference with
  | none =>
    rw [hreference] at h
    obtain ⟨-, rfl⟩ := run_pure_eq_ok.1 h
    exact .refl _
  | some reference =>
    rw [hreference] at h
    dsimp only at h
    split at h
    · obtain ⟨_, _, hfail, -⟩ := run_bind_eq_ok.1 h
      simp [fail] at hfail
    · obtain ⟨fragment, middle, hfragment, hrest⟩ := run_bind_eq_ok.1 h
      obtain ⟨target, last, htarget, hoverlay⟩ := run_bind_eq_ok.1 hrest
      obtain ⟨-, rfl⟩ := run_lift_eq_ok.1 hfragment
      obtain ⟨-, rfl⟩ := run_lift_eq_ok.1 hoverlay
      exact (hresolve _ _ _ _ _ htarget).1

theorem resolveWithin_yields (around : Surroundings) (guarded : Bool) (room depth : Nat)
    (hroom : room + depth = around.maxDepth + 1) (inProgress : List String) (path : Path)
    (node : Node) :
    Yields around (fun rules => Applicable rules depth)
      (resolveWithin around guarded room inProgress path node) := by
  induction room generalizing depth inProgress path node with
  | zero =>
    intro before a after h
    simp [resolveWithin, fail] at h
  | succ room ih =>
    intro before a after h
    rw [resolveWithin] at h
    obtain ⟨expanded, middle, hexpand, hdescend⟩ := run_bind_eq_ok.1 h
    have hbelow := ih (depth + 1) (by omega)
    -- The target of a reference is resolved one level deeper; of its run only
    -- the patterns matter here.
    have hgrows := expand_grows (fun inProgress target before a after h =>
      ⟨(hbelow inProgress path target before a after h).1, trivial⟩) hexpand
    obtain ⟨hgrows', happlicable⟩ :=
      descend_yields (by omega) (hbelow inProgress) path expanded _ _ _ hdescend
    exact ⟨hgrows.trans hgrows', happlicable⟩

end Resolution

/-- The result of a resolution can be applied under the patterns that were compiled for it. -/
theorem Node.resolve_applicable {node root : Node} {around : Surroundings} {patterns : Patterns}
    (h : node.resolve around = .ok (root, patterns)) :
    Applicable (around.rules patterns) 0 root ∧ patterns.Sound := by
  obtain ⟨hgrows, happlicable⟩ :=
    Resolution.resolveWithin_yields around true _ 0 rfl [] [] node _ _ _ h
  exact ⟨happlicable, hgrows.sound (by simp [Patterns.Sound])⟩

end DataSchema
