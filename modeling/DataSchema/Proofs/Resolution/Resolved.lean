import DataSchema.Proofs.Node.References
import DataSchema.Proofs.Resolution.Room

/-!
# Resolved trees

The tree that a node is resolved to has no references, so resolving it again changes nothing,
whatever the store holds. Nothing happens either to a node that had no references to begin with.
-/

namespace DataSchema.Resolution

variable {around : Surroundings} {guarded : Bool} {room : Nat} {inProgress : List String}
  {node result : Node}

section

variable {formats : Formats} {resolves resolves' : Node → Node → Prop}

theorem Descends.exists_of_mem_children (h : Descends formats resolves node result) {inner : Node}
    (hinner : inner ∈ result.children) : ∃ before ∈ node.children, resolves before inner := by
  have hoptional : ∀ {value resolved : Option Node}, Option.Rel resolves value resolved →
      ∀ inner ∈ resolved.toList, ∃ before ∈ value.toList, resolves before inner := by
    rintro _ _ (hvalue | _) inner hinner
    · cases List.mem_singleton.1 hinner
      exact ⟨_, by simp, hvalue⟩
    · cases hinner
  have hkeys : ∀ {keys resolved : List (String × Node)},
      List.Forall₂ (KeyResolves resolves) keys resolved →
      ∀ inner ∈ resolved.map Prod.snd, ∃ before ∈ keys.map Prod.snd, resolves before inner := by
    intro keys resolved hkeys
    induction hkeys with
    | nil => simp
    | @cons declared resolved _ _ hfirst _ ih =>
      rw [List.map_cons, List.map_cons, List.forall_mem_cons]
      refine ⟨⟨declared.2, by simp, hfirst.2⟩, fun inner hinner => ?_⟩
      obtain ⟨before, hbefore, hresolves⟩ := ih inner hinner
      exact ⟨before, List.mem_cons_of_mem _ hbefore, hresolves⟩
  cases h with
  | str | int | bool => cases hinner
  | dict hstatic hdynamic =>
    rcases List.mem_append.1 hinner with hinner | hinner
    · cases hstatic with
      | none => cases hinner
      | some hstatic =>
        obtain ⟨before, hbefore, hresolves⟩ := hkeys hstatic inner hinner
        exact ⟨before, List.mem_append_left _ hbefore, hresolves⟩
    · obtain ⟨before, hbefore, hresolves⟩ := hoptional hdynamic inner hinner
      exact ⟨before, List.mem_append_right _ hbefore, hresolves⟩
  | list hitems => exact hoptional hitems inner hinner

/-- When the nodes below the result stay as they are, so does the result:
it has passed its checks. -/
theorem Descends.again (h : Descends formats resolves node result)
    (hagain : ∀ inner resolved, resolves inner resolved → resolves' resolved resolved) :
    Descends formats resolves' result result := by
  have hoptional : ∀ {value resolved : Option Node}, Option.Rel resolves value resolved →
      Option.Rel resolves' resolved resolved := by
    rintro _ _ (hvalue | _)
    · exact .some (hagain _ _ hvalue)
    · exact .none
  have hkeys : ∀ {keys resolved : List (String × Node)},
      List.Forall₂ (KeyResolves resolves) keys resolved →
      List.Forall₂ (KeyResolves resolves') resolved resolved := by
    intro keys resolved hkeys
    induction hkeys with
    | nil => exact .nil
    | cons hfirst _ ih => exact .cons ⟨rfl, hagain _ _ hfirst.2⟩ ih
  cases h with
  | str haccepts => exact .str haccepts
  | int => exact .int
  | bool => exact .bool
  | dict hstatic hdynamic =>
    refine .dict ?_ (hoptional hdynamic)
    cases hstatic with
    | none => exact .none
    | some hstatic => exact .some (hkeys hstatic)
  | list hitems hkey => exact .list (hoptional hitems) hkey

theorem Descends.eq_of_children (h : Descends formats resolves node result)
    (hbelow : ∀ inner ∈ node.children, ∀ resolved, resolves inner resolved → resolved = inner) :
    result = node := by
  have hoptional : ∀ {value resolved : Option Node}, Option.Rel resolves value resolved →
      (∀ inner ∈ value.toList, inner ∈ node.children) → resolved = value := by
    rintro _ _ (hvalue | _) hmem
    · rw [hbelow _ (hmem _ (by simp)) _ hvalue]
    · rfl
  have hkeys : ∀ {keys resolved : List (String × Node)},
      List.Forall₂ (KeyResolves resolves) keys resolved →
      (∀ inner ∈ keys.map Prod.snd, inner ∈ node.children) → resolved = keys := by
    intro keys resolved hkeys
    induction hkeys with
    | nil => exact fun _ => rfl
    | cons hfirst _ ih =>
      intro hmem
      rw [List.map_cons, List.forall_mem_cons] at hmem
      rw [ih hmem.2, Prod.ext hfirst.1.symm (hbelow _ hmem.1 _ hfirst.2)]
  cases h with
  | str | int | bool => rfl
  | dict hstatic hdynamic =>
    rw [hoptional hdynamic fun inner hinner => List.mem_append_right _ hinner]
    cases hstatic with
    | none => rfl
    | some hstatic => rw [hkeys hstatic fun inner hinner => List.mem_append_left _ hinner]
  | list hitems => rw [hoptional hitems fun inner hinner => hinner]

end

/-! ### No references are left -/

theorem Expands.reference_eq_none {store : Store} {resolves : List String → Node → Node → Prop}
    {expanded : Node} (h : Expands store guarded inProgress resolves node expanded)
    (htarget : ∀ reference fragment target, resolves (inProgress ++ [reference]) fragment target →
      target.references = []) : expanded.attributes.reference = none := by
  cases h with
  | plain hplain => exact hplain
  | target _ _ _ hresolves hmerged =>
    have hnone := (Node.references_eq_nil_iff.1 (htarget _ _ _ hresolves)).1
    rw [Node.reference_of_merged? hmerged, Node.reference_ownFields, hnone, Option.none_or]

theorem Resolves.references_eq_nil (h : Resolves around guarded room inProgress node result) :
    result.references = [] := by
  induction room generalizing inProgress node result with
  | zero => exact h.elim
  | succ room ih =>
    obtain ⟨expanded, hexpands, hdescends⟩ := h
    refine Node.references_eq_nil_iff.2 ⟨?_, fun inner hinner => ?_⟩
    · rw [hdescends.reference]
      exact hexpands.reference_eq_none fun _ _ _ => ih
    · obtain ⟨before, -, hresolves⟩ := hdescends.exists_of_mem_children hinner
      exact ih hresolves

/-! ### Resolving again -/

/-- A resolved tree is resolved to itself with any store: there is nothing left to look up. -/
theorem Resolves.again {around' : Surroundings} {guarded' : Bool} {inProgress' : List String}
    (hformats : around'.formats = around.formats)
    (h : Resolves around guarded room inProgress node result) :
    Resolves around' guarded' room inProgress' result result := by
  induction room generalizing inProgress node result with
  | zero => exact h.elim
  | succ room ih =>
    have hplain := (Node.references_eq_nil_iff.1 h.references_eq_nil).1
    obtain ⟨expanded, hexpands, hdescends⟩ := h
    refine ⟨result, .plain hplain, ?_⟩
    rw [hformats]
    exact hdescends.again fun _ _ => ih

theorem Resolves.eq_of_references_eq_nil (hnode : node.references = [])
    (h : Resolves around guarded room inProgress node result) : result = node := by
  induction room generalizing inProgress node result with
  | zero => exact h.elim
  | succ room ih =>
    obtain ⟨expanded, hexpands, hdescends⟩ := h
    obtain ⟨hplain, hbelow⟩ := Node.references_eq_nil_iff.1 hnode
    cases hexpands with
    | plain => exact hdescends.eq_of_children fun inner hinner resolved => ih (hbelow inner hinner)
    | target hreference => simp [hplain] at hreference

end DataSchema.Resolution
