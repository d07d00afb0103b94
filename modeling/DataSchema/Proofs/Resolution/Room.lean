import DataSchema.Proofs.Resolution.Relation

/-!
# How many levels a resolution needs

A node is resolved to at most one tree, and more room does not change it. Without the watch over
references in progress, these do not matter at all.
-/

namespace DataSchema.Resolution

variable {around : Surroundings} {guarded : Bool} {room : Nat} {inProgress : List String}
  {node result : Node}

/-! ### The parts depend on what is below -/

section

variable {formats : Formats} {resolves resolves' : Node → Node → Prop}

theorem Descends.mono (h : Descends formats resolves node result)
    (hle : ∀ inner resolved, resolves inner resolved → resolves' inner resolved) :
    Descends formats resolves' node result := by
  have hoptional : ∀ {value value'}, Option.Rel resolves value value' →
      Option.Rel resolves' value value' := by
    rintro _ _ (hvalue | _)
    · exact .some (hle _ _ hvalue)
    · exact .none
  cases h with
  | str haccepts => exact .str haccepts
  | int => exact .int
  | bool => exact .bool
  | dict hkeys hdynamic =>
    refine .dict ?_ (hoptional hdynamic)
    cases hkeys with
    | some hkeys => exact .some (hkeys.imp fun declared resolved hkey => ⟨hkey.1, hle _ _ hkey.2⟩)
    | none => exact .none
  | list hitems hkey => exact .list (hoptional hitems) hkey

theorem Descends.unique {result' : Node} (h : Descends formats resolves node result)
    (h' : Descends formats resolves' node result')
    (hunique : ∀ inner resolved resolved', resolves inner resolved → resolves' inner resolved' →
      resolved = resolved') : result = result' := by
  have hoptional : ∀ {value resolved resolved'}, Option.Rel resolves value resolved →
      Option.Rel resolves' value resolved' → resolved = resolved' := by
    rintro _ _ _ (hvalue | _) (hvalue' | _)
    · rw [hunique _ _ _ hvalue hvalue']
    · rfl
  have hkeys : ∀ {keys resolved resolved'}, List.Forall₂ (KeyResolves resolves) keys resolved →
      List.Forall₂ (KeyResolves resolves') keys resolved' → resolved = resolved' := by
    intro keys resolved resolved' hkeys hkeys'
    induction hkeys generalizing resolved' with
    | nil =>
      cases hkeys'
      rfl
    | cons hfirst _ ih =>
      cases hkeys' with
      | cons hfirst' hrest' =>
        have hkey := hfirst.1.symm.trans hfirst'.1
        have hnode := hunique _ _ _ hfirst.2 hfirst'.2
        rw [Prod.ext hkey hnode, ih hrest']
  cases h with
  | str =>
    cases h'
    rfl
  | int =>
    cases h'
    rfl
  | bool =>
    cases h'
    rfl
  | dict hdeclared hdynamic =>
    cases h' with
    | dict hdeclared' hdynamic' =>
      rw [hoptional hdynamic hdynamic']
      cases hdeclared with
      | none =>
        cases hdeclared'
        rfl
      | some hdeclared =>
        cases hdeclared' with
        | some hdeclared' => rw [hkeys hdeclared hdeclared']
  | list hitems =>
    cases h' with
    | list hitems' => rw [hoptional hitems hitems']

end

theorem Expands.mono {store : Store} {guarded' : Bool} {inProgress' : List String}
    {resolves resolves' : List String → Node → Node → Prop}
    (h : Expands store guarded inProgress resolves node result)
    (hnew : ∀ reference, node.attributes.reference = some reference → guarded' = true →
      reference ∉ inProgress')
    (hle : ∀ reference fragment target, store.fragment reference = .ok fragment →
      resolves (inProgress ++ [reference]) fragment target →
      resolves' (inProgress' ++ [reference]) fragment target) :
    Expands store guarded' inProgress' resolves' node result := by
  cases h with
  | plain hplain => exact .plain hplain
  | target hreference _ hfragment htarget hmerged =>
    exact .target hreference (hnew _ hreference) hfragment (hle _ _ _ hfragment htarget) hmerged

theorem Expands.unique {store : Store} {guarded' : Bool} {inProgress' : List String}
    {result' : Node} {resolves resolves' : List String → Node → Node → Prop}
    (h : Expands store guarded inProgress resolves node result)
    (h' : Expands store guarded' inProgress' resolves' node result')
    (hunique : ∀ reference fragment target target',
      resolves (inProgress ++ [reference]) fragment target →
      resolves' (inProgress' ++ [reference]) fragment target' → target = target') :
      result = result' := by
  cases h with
  | plain hplain =>
    cases h' with
    | plain => rfl
    | target hreference => simp [hplain] at hreference
  | target hreference _ hfragment htarget hmerged =>
    cases h' with
    | plain hplain => simp [hplain] at hreference
    | target hreference' _ hfragment' htarget' hmerged' =>
      cases hreference.symm.trans hreference'
      cases hfragment.symm.trans hfragment'
      cases hunique _ _ _ _ htarget htarget'
      exact Option.some.inj (hmerged.symm.trans hmerged')

/-! ### Resolutions -/

theorem Resolves.succ (h : Resolves around guarded room inProgress node result) :
    Resolves around guarded (room + 1) inProgress node result := by
  induction room generalizing inProgress node result with
  | zero => exact h.elim
  | succ room ih =>
    obtain ⟨expanded, hexpands, hdescends⟩ := h
    refine ⟨expanded, ?_, hdescends.mono fun _ _ => ih⟩
    cases hexpands with
    | plain hplain => exact .plain hplain
    | target hreference hnew hfragment htarget hmerged =>
      exact .target hreference hnew hfragment (ih htarget) hmerged

theorem Resolves.mono {room' : Nat} (h : Resolves around guarded room inProgress node result)
    (hle : room ≤ room') : Resolves around guarded room' inProgress node result := by
  induction hle with
  | refl => exact h
  | step _ ih => exact ih.succ

/-- Without the watch, the references in progress do not matter. -/
theorem Resolves.unguarded {inProgress' : List String}
    (h : Resolves around guarded room inProgress node result) :
    Resolves around false room inProgress' node result := by
  induction room generalizing inProgress inProgress' node result with
  | zero => exact h.elim
  | succ room ih =>
    obtain ⟨expanded, hexpands, hdescends⟩ := h
    refine ⟨expanded, ?_, hdescends.mono fun _ _ => ih⟩
    exact hexpands.mono (by simp) fun _ _ _ _ htarget => ih htarget

theorem Resolves.unique {guarded' : Bool} {room' : Nat} {inProgress' : List String} {result' : Node}
    (h : Resolves around guarded room inProgress node result)
    (h' : Resolves around guarded' room' inProgress' node result') : result = result' := by
  have hcommon : ∀ room inProgress node result result',
      Resolves around false room inProgress node result →
      Resolves around false room inProgress node result' → result = result' := by
    intro room
    induction room with
    | zero =>
      intro _ _ _ _ h _
      exact h.elim
    | succ room ih =>
      rintro inProgress node result result' ⟨expanded, hexpands, hdescends⟩
        ⟨expanded', hexpands', hdescends'⟩
      cases hexpands.unique hexpands' fun reference => ih (inProgress ++ [reference])
      exact hdescends.unique hdescends' (ih inProgress)
  have hresult : Resolves around false (max room room') [] node result :=
    h.unguarded.mono (Nat.le_max_left room room')
  have hresult' : Resolves around false (max room room') [] node result' :=
    h'.unguarded.mono (Nat.le_max_right room room')
  exact hcommon _ _ _ _ _ hresult hresult'

end DataSchema.Resolution
