import DataSchema.Proofs.Resolution.Room
import DataSchema.Proofs.Resolution.Runs

/-!
# References in progress

While the target of a reference is resolved, the reference is in progress, and meeting it again is
an error. References are compared as texts, and a text is forgotten before the local fields are laid
over the target, so a schema may well use a reference again below a node that used it. The watch
never costs anything: a node is resolved to the same tree without it, as long as the depth of the
tree is bounded.
-/

namespace DataSchema

/-- Resolves a node without watching references in progress: only the depth is bounded. -/
def Node.resolveUnguarded (node : Node) (around : Surroundings) :
    Except SchemaError (Node × Patterns) :=
  Resolution.resolveWithin around false (around.maxDepth + 1) [] [] node []

namespace Resolution

variable {around : Surroundings} {room : Nat} {inProgress : List String} {node result : Node}

/-! ### Runs that are watched -/

/-- Whatever the one run returns, the other returns as well. -/
def Follows {α : Type} (run run' : Resolving α) : Prop :=
  ∀ before outcome, run before = .ok outcome → run' before = .ok outcome

theorem compatible_follows : Compatible @Follows where
  refl run := fun _ _ h => h
  bind := by
    intro α β run run' next next' h hnext before outcome hrun
    obtain ⟨a, middle, hfirst, hsecond⟩ := run_bind_eq_ok.1 hrun
    exact run_bind_eq_ok.2 ⟨a, middle, h _ _ hfirst, hnext a _ _ hsecond⟩

theorem follows_expand {run run' : List String → Node → Resolving Node}
    (h : ∀ inProgress node, Follows (run inProgress node) (run' inProgress node)) (path : Path) :
    Follows (expand around true inProgress run path node)
      (expand around false inProgress run' path node) := by
  unfold expand
  split
  · exact compatible_follows.refl _
  · rename_i reference _
    split
    · intro before outcome hrun
      obtain ⟨_, _, hfail, -⟩ := run_bind_eq_ok.1 hrun
      cases hfail
    · apply compatible_follows.bind (compatible_follows.refl _)
      intro fragment
      exact compatible_follows.bind (h _ _) fun target => compatible_follows.refl _

theorem follows_resolveWithin (room : Nat) (inProgress : List String) (path : Path) (node : Node) :
    Follows (resolveWithin around true room inProgress path node)
      (resolveWithin around false room inProgress path node) := by
  induction room generalizing inProgress path node with
  | zero => exact compatible_follows.refl _
  | succ room ih =>
    rw [resolveWithin, resolveWithin]
    apply compatible_follows.bind (follows_expand (fun inProgress => ih inProgress path) path)
    intro expanded
    exact compatible_follows.descend (ih inProgress) _ _ _

/-! ### The watch does not cost anything -/

/-- The references in progress have targets that are not resolved within the room that is left. -/
def OutOfReach (around : Surroundings) (room : Nat) (inProgress : List String) : Prop :=
  ∀ reference ∈ inProgress, ∀ fragment target, around.store.fragment reference = .ok fragment →
    ¬ Resolves around false room [] fragment target

theorem OutOfReach.of_le {room' : Nat} (h : OutOfReach around room inProgress)
    (hle : room' ≤ room) :
    OutOfReach around room' inProgress :=
  fun reference hmem fragment target hfragment hresolves =>
    h reference hmem fragment target hfragment (hresolves.mono hle)

/-- The least number of levels within which a node is resolved leaves it out of reach one level
below. -/
theorem Resolves.exists_least (h : Resolves around false room inProgress node result) :
    ∃ least, least + 1 ≤ room ∧ Resolves around false (least + 1) [] node result ∧
      ∀ target, ¬ Resolves around false least [] node target := by
  induction room with
  | zero => exact h.elim
  | succ room ih =>
    by_cases hless : Resolves around false room inProgress node result
    · obtain ⟨least, hle, hleast⟩ := ih hless
      exact ⟨least, by omega, hleast⟩
    · refine ⟨room, Nat.le_refl _, h.unguarded, fun target htarget => hless ?_⟩
      cases h.unique htarget
      exact htarget.unguarded

/-- What is in progress is never needed again: a reference whose target is resolved without the
watch is resolved within fewer levels than every reference around it leaves. -/
theorem Resolves.guarded (h : Resolves around false (room + 1) inProgress node result)
    (hreach : OutOfReach around room inProgress) :
    Resolves around true (room + 1) inProgress node result := by
  -- on the room and not on the node: the fragments of the store are not parts of the node
  induction room using Nat.strongRecOn generalizing inProgress node result with
  | ind room ih =>
    obtain ⟨expanded, hexpands, hdescends⟩ := h
    refine ⟨expanded, ?_, hdescends.mono fun inner resolved hinner => ?_⟩
    · cases hexpands with
      | plain hplain => exact .plain hplain
      | @target reference fragment target _ hreference _ hfragment htarget hmerged =>
        have hnew : reference ∉ inProgress := fun hmem =>
          hreach reference hmem fragment target hfragment htarget.unguarded
        obtain ⟨least, hle, hleast, hbelow⟩ := htarget.exists_least
        have hreach' : OutOfReach around least (inProgress ++ [reference]) := by
          intro other hother fragment' target' hfragment'
          rcases List.mem_append.1 hother with hother | hother
          · exact (hreach.of_le (by omega)) other hother fragment' target' hfragment'
          · cases List.mem_singleton.1 hother
            cases hfragment.symm.trans hfragment'
            exact hbelow target'
        have hguarded := ih least hle hleast.unguarded hreach'
        exact .target hreference (fun _ => hnew) hfragment (hguarded.mono hle) hmerged
    · cases room with
      | zero => exact hinner.elim
      | succ room => exact ih room (Nat.lt_succ_self room) hinner (hreach.of_le (Nat.le_succ room))

end Resolution

open Resolution

/-- The watch over references in progress is exact: it never rejects a node that is resolved when
only the depth is bounded, and resolves it to the same tree. -/
theorem Node.resolve_eq_ok_iff_resolveUnguarded_eq_ok (node : Node) (around : Surroundings)
    (outcome : Node × Patterns) :
    node.resolve around = .ok outcome ↔ node.resolveUnguarded around = .ok outcome := by
  have hfollows : ∀ outcome, node.resolve around = .ok outcome →
      node.resolveUnguarded around = .ok outcome :=
    fun outcome h => follows_resolveWithin _ _ _ _ _ _ h
  refine ⟨hfollows outcome, fun h => ?_⟩
  have hempty : Patterns.Sound [] := by simp [Patterns.Sound]
  obtain ⟨result, patterns⟩ := outcome
  have hresolves : Resolves around false (around.maxDepth + 1) [] node result :=
    ((returns_resolveWithin around false _ [] [] node [] hempty).1 result patterns h).2
  have hguarded : Resolves around true (around.maxDepth + 1) [] node result :=
    hresolves.guarded (by simp [OutOfReach])
  obtain ⟨patterns', hrun⟩ := Node.exists_resolve_iff.2 hguarded
  have hsame := (hfollows _ hrun).symm.trans h
  rw [hrun, Except.ok.inj hsame]

end DataSchema
