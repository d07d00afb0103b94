import Mathlib.Logic.Relation
import DataSchema.Proofs.Resolution.DepthLimit
import DataSchema.Proofs.Store.Fragments

/-!
# Reference cycles

A node is resolved only after the targets of all its references, and each of these with less room.
So nothing that leads round in a cycle is ever resolved, whatever its references are called, and
with a large enough limit the error is not that a place lies too deep.
-/

namespace DataSchema

/-- Some reference at the node or below it points at the fragment. -/
def Node.LeadsTo (store : Store) (node fragment : Node) : Prop :=
  ∃ reference ∈ node.references, store.fragment reference = .ok fragment

/-- From the node, references lead to a fragment that they lead back to. -/
def Node.LeadsIntoCycle (store : Store) (node : Node) : Prop :=
  ∃ fragment, Relation.ReflTransGen (LeadsTo store) node fragment ∧
    Relation.TransGen (LeadsTo store) fragment fragment

namespace Resolution

variable {around : Surroundings} {guarded : Bool} {room : Nat} {inProgress : List String}
  {node fragment result : Node}

/-- A reference of the node that is not its own stands below the expanded node. -/
theorem Expands.exists_mem_children {resolves : List String → Node → Node → Prop}
    {expanded : Node} {reference : String} (hnode : node.WellFormed)
    (h : Expands around.store guarded inProgress resolves node expanded)
    (htarget : ∀ reference fragment target, resolves (inProgress ++ [reference]) fragment target →
      target.references = []) (hreference : reference ∈ node.references)
    (hown : node.attributes.reference ≠ some reference) :
    ∃ inner ∈ expanded.children, reference ∈ inner.references := by
  have hnone := h.reference_eq_none htarget
  have hexpanded : reference ∈ expanded.references := by
    cases h with
    | plain => exact hreference
    | target _ _ _ _ hmerged =>
      apply Node.mem_references_of_merged? hnode.ownFields hmerged
      rw [Node.mem_references, Node.children_ownFields]
      exact .inr ((Node.mem_references.1 hreference).resolve_left hown)
  exact (Node.mem_references.1 hexpanded).resolve_left (by simp [hnone])

theorem Resolves.exists_of_leadsTo (hstore : around.store.WellFormed) (hnode : node.WellFormed)
    (h : Resolves around guarded room inProgress node result)
    (hleads : node.LeadsTo around.store fragment) :
    ∃ less < room, ∃ target, Resolves around false less [] fragment target := by
  obtain ⟨reference, hreference, hfragment⟩ := hleads
  induction room generalizing inProgress node result with
  | zero => exact h.elim
  | succ room ih =>
    obtain ⟨expanded, hexpands, hdescends⟩ := h
    by_cases hown : node.attributes.reference = some reference
    · refine ⟨room, Nat.lt_succ_self room, ?_⟩
      cases hexpands with
      | plain hplain => simp [hplain] at hown
      | target hreference' _ hfragment' htarget =>
        cases hown.symm.trans hreference'
        cases hfragment.symm.trans hfragment'
        exact ⟨_, htarget.unguarded⟩
    · have hexpanded : expanded.WellFormed := hexpands.wellFormed hstore hnode
      obtain ⟨inner, hinner, hbelow⟩ :=
        hexpands.exists_mem_children hnode (fun _ _ _ h => h.references_eq_nil) hreference hown
      obtain ⟨step, hstep⟩ := hexpanded.exists_step hinner
      have hresolved := hdescends.below? step
      rw [hstep] at hresolved
      obtain ⟨resolved, -, hresolves⟩ := exists_of_rel_some hresolved
      obtain ⟨less, hless, htarget⟩ := ih (hexpanded.below? hstep) hresolves hbelow
      exact ⟨less, Nat.lt_succ_of_lt hless, htarget⟩

theorem Resolves.exists_of_transGen (hstore : around.store.WellFormed) (hnode : node.WellFormed)
    (h : Resolves around guarded room inProgress node result)
    (hleads : Relation.TransGen (Node.LeadsTo around.store) node fragment) :
    ∃ less < room, ∃ target, Resolves around false less [] fragment target := by
  induction hleads using Relation.TransGen.head_induction_on generalizing guarded room
    inProgress result with
  | single hleads => exact h.exists_of_leadsTo hstore hnode hleads
  | head hleads _ ih =>
    obtain ⟨less, hless, target, htarget⟩ := h.exists_of_leadsTo hstore hnode hleads
    obtain ⟨reference, -, hfragment⟩ := hleads
    obtain ⟨least, hleast, hfound⟩ := ih (Store.fragment_wellFormed hstore hfragment) htarget
    exact ⟨least, hleast.trans hless, hfound⟩

/-- A fragment on a cycle would be resolved with less and less room. -/
theorem not_resolves_of_cycle (hstore : around.store.WellFormed) (hnode : node.WellFormed)
    (hcycle : Relation.TransGen (Node.LeadsTo around.store) node node) :
    ¬ Resolves around guarded room inProgress node result := by
  induction room using Nat.strongRecOn generalizing guarded inProgress result with
  | ind room ih =>
    intro h
    obtain ⟨less, hless, target, htarget⟩ := h.exists_of_transGen hstore hnode hcycle
    exact ih less hless htarget

theorem not_resolves_of_leadsIntoCycle (hstore : around.store.WellFormed) (hnode : node.WellFormed)
    (hcycle : node.LeadsIntoCycle around.store) :
    ¬ Resolves around guarded room inProgress node result := by
  intro h
  obtain ⟨fragment, hleads, hround⟩ := hcycle
  have hleads' := Relation.TransGen.trans_right hleads hround
  obtain ⟨less, -, target, htarget⟩ := h.exists_of_transGen hstore hnode hleads'
  obtain ⟨before, -, reference, -, hfragment⟩ := Relation.TransGen.tail'_iff.1 hleads'
  exact not_resolves_of_cycle hstore (Store.fragment_wellFormed hstore hfragment) hround htarget

end Resolution

open Resolution

namespace Node

variable {store : Store} {formats : Formats} {node : Node} {limit limit' : Nat}

theorem resolve_eq_of_le (hle : limit ≤ limit')
    (h : ¬ TooDeep (node.resolve ⟨store, formats, limit⟩)) :
    node.resolve ⟨store, formats, limit'⟩ = node.resolve ⟨store, formats, limit⟩ :=
  agrees_resolveWithin (Nat.succ_le_succ hle) [] [] node [] h

theorem exists_limit (store : Store) (formats : Formats) (node : Node) :
    ∃ enough, ∀ limit, enough ≤ limit → ¬ TooDeep (node.resolve ⟨store, formats, limit⟩) := by
  have hfragments : ∀ reference fragment, store.fragment reference = .ok fragment →
      ∀ other ∈ fragment.references, other ∈ (node.references ++ store.texts).toFinset := by
    intro reference fragment hfragment other hother
    simp [store.references_subset_texts hfragment hother]
  have hsettles : ∃ room, SettlesWithin ⟨store, formats, 0⟩ room [] node :=
    exists_settlesWithin hfragments (by simp +contextual)
  obtain ⟨room, hroom⟩ := hsettles
  refine ⟨room, fun limit hlimit => ?_⟩
  have hempty : Patterns.Sound [] := by simp [Patterns.Sound]
  have hsame : node.resolve ⟨store, formats, limit⟩ =
      resolveWithin ⟨store, formats, 0⟩ true room [] [] node [] :=
    agrees_resolveWithin (Nat.le_succ_of_le hlimit) [] [] node [] (hroom.not_tooDeep [] hempty)
  rw [hsame]
  exact hroom.not_tooDeep [] hempty

/-- The limit decides nothing once it is large enough. Every outcome within a limit is the outcome
within all larger ones, for every node some limit is enough, and nodes that lead into a cycle of
references end in an error that is not about the depth. -/
theorem resolve_of_large_limit (store : Store) (formats : Formats) (node : Node) :
    (∀ limit limit', limit ≤ limit' → ¬ TooDeep (node.resolve ⟨store, formats, limit⟩) →
      node.resolve ⟨store, formats, limit'⟩ = node.resolve ⟨store, formats, limit⟩) ∧
    (∃ enough, ∀ limit, enough ≤ limit → ¬ TooDeep (node.resolve ⟨store, formats, limit⟩)) ∧
    (store.WellFormed → node.WellFormed → node.LeadsIntoCycle store → ∃ enough error,
      (∀ path limit, error ≠ .depthExceeded path limit) ∧
      ∀ limit, enough ≤ limit → node.resolve ⟨store, formats, limit⟩ = .error error) := by
  have hmore : ∀ limit limit', limit ≤ limit' → ¬ TooDeep (node.resolve ⟨store, formats, limit⟩) →
      node.resolve ⟨store, formats, limit'⟩ = node.resolve ⟨store, formats, limit⟩ :=
    fun _ _ => resolve_eq_of_le
  have henough := exists_limit store formats node
  refine ⟨hmore, henough, fun hstore hnode hcycle => ?_⟩
  obtain ⟨enough, henough⟩ := henough
  cases hrun : node.resolve ⟨store, formats, enough⟩ with
  | ok outcome =>
    have hresolves := exists_resolve_iff.1 ⟨outcome.2, hrun⟩
    exact absurd hresolves (not_resolves_of_leadsIntoCycle hstore hnode hcycle)
  | error error =>
    have hdeep := henough enough (Nat.le_refl enough)
    refine ⟨enough, error, fun path limit herror => hdeep ⟨path, limit, herror ▸ hrun⟩,
      fun limit hlimit => ?_⟩
    rw [hmore enough limit hlimit hdeep, hrun]

end Node

def Store.entangled : Store :=
  ⟨[("net", .object [("type", .string "dict"), ("keys", .object [
      ("port", .object [("type", .string "dict"), ("$ref", .string "host#/keys/server")])])]),
    ("host", .object [("type", .string "dict"), ("keys", .object [
      ("server", .object [("type", .string "dict"), ("$ref", .string "net#keys.port")])])])],
    defaultMaxDepth⟩

def Node.referring (reference : String) : Node :=
  .dict { Attributes.empty with reference := some reference } none none none

theorem Node.leadsIntoCycle_entangled : (referring "net#/keys/port").LeadsIntoCycle .entangled := by
  have hport : (referring "net#/keys/port").LeadsTo .entangled (referring "host#/keys/server") :=
    ⟨_, .head _, rfl⟩
  have hserver : (referring "host#/keys/server").LeadsTo .entangled (referring "net#keys.port") :=
    ⟨_, .head _, rfl⟩
  have hagain : (referring "net#keys.port").LeadsTo .entangled (referring "host#/keys/server") :=
    ⟨_, .head _, rfl⟩
  exact ⟨_, .single hport, .tail (.single hserver) hagain⟩

/-- The cycle is found even though one of its references is spelled in two ways. -/
theorem Node.resolve_of_large_limit_entangled :
    (∀ limit, 3 ≤ limit →
      (referring "net#/keys/port").resolve ⟨.entangled, Formats.builtin, limit⟩ =
        .error (.cyclicReference ["net#/keys/port", "host#/keys/server", "net#keys.port",
          "host#/keys/server"])) ∧
    ∃ enough error, (∀ path limit, error ≠ .depthExceeded path limit) ∧ ∀ limit, enough ≤ limit →
      (referring "net#/keys/port").resolve ⟨.entangled, Formats.builtin, limit⟩ = .error error := by
  have hstore : Store.entangled.WellFormed := by
    simp [Store.WellFormed, Store.entangled, Document.WellFormed, Document.WellFormedEntries]
  have hnode : (referring "net#/keys/port").WellFormed := .dict (by simp) (by simp) (by simp)
  obtain ⟨hsame, -, hcycle⟩ :=
    resolve_of_large_limit .entangled Formats.builtin (referring "net#/keys/port")
  refine ⟨fun limit hlimit => ?_, hcycle hstore hnode leadsIntoCycle_entangled⟩
  have hrun : (referring "net#/keys/port").resolve ⟨.entangled, Formats.builtin, 3⟩ =
      .error (.cyclicReference ["net#/keys/port", "host#/keys/server", "net#keys.port",
        "host#/keys/server"]) := rfl
  rw [← hrun]
  apply hsame 3 limit hlimit
  rintro ⟨path, limit, hdeep⟩
  rw [hrun] at hdeep
  cases hdeep

end DataSchema
