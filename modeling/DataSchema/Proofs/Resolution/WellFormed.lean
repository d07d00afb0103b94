import DataSchema.Proofs.Node.WellFormed
import DataSchema.Proofs.Resolution.Outcome

/-!
# Resolution keeps nodes well-formed

With a store of well-formed documents, a node that declares no key twice is resolved to one
that declares no key twice.
-/

namespace DataSchema

namespace Store

/-- No document of the store holds a key twice in one object. -/
def WellFormed (store : Store) : Prop := ∀ entry ∈ store.documents, entry.2.WellFormed

theorem follow_wellFormed {document found : Document} {steps : List String}
    (hdocument : document.WellFormed) (h : follow document steps = .ok found) :
    found.WellFormed := by
  induction steps generalizing document with
  | nil =>
    rw [follow, Except.ok.injEq] at h
    exact h ▸ hdocument
  | cons step rest ih =>
    rw [follow] at h
    split at h
    · rename_i next hnext
      cases document with
      | object entries =>
        exact ih ((Document.wellFormed_object.1 hdocument).2 _ (Entries.mem_of_lookup hnext)) h
      | _ => simp [Document.get?] at hnext
    · cases h

theorem fragment_wellFormed {store : Store} {reference : String} {node : Node}
    (hstore : store.WellFormed) (h : store.fragment reference = .ok node) : node.WellFormed := by
  obtain ⟨target, -, h⟩ := bind_eq_ok.1 h
  split at h
  · cases h
  · rename_i document hdocument
    have hwellFormed := hstore _ (Entries.mem_of_lookup hdocument)
    split at h
    · cases h
    · rename_i found hfollow
      split at h
      · rename_i read hread
        rw [Except.ok.injEq] at h
        exact h ▸ Node.wellFormed_of_ofDocument? (follow_wellFormed hwellFormed hfollow) hread
      · cases h

end Store

namespace Resolution

def Keeps (run : Resolving Node) : Prop :=
  ∀ before node after, run before = .ok (node, after) → node.WellFormed

theorem eachKey_wellFormed {resolve : Path → Node → Resolving Node} {path : Path}
    {keys resolved : List (String × Node)} {before after : Patterns}
    (hresolve : ∀ entry ∈ keys, ∀ path, Keeps (resolve path entry.2))
    (h : eachKey resolve path keys before = .ok (resolved, after)) :
    resolved.map Prod.fst = keys.map Prod.fst ∧ ∀ entry ∈ resolved, entry.2.WellFormed := by
  induction keys generalizing resolved before after with
  | nil =>
    obtain ⟨rfl, -⟩ := run_pure_eq_ok.1 h
    simp
  | cons declared rest ih =>
    obtain ⟨node, middle, hnode, h⟩ := run_bind_eq_ok.1 h
    obtain ⟨others, last, hothers, h⟩ := run_bind_eq_ok.1 h
    obtain ⟨rfl, -⟩ := run_pure_eq_ok.1 h
    rw [List.forall_mem_cons] at hresolve
    obtain ⟨hkeys, hgood⟩ := ih hresolve.2 hothers
    rw [List.map_cons, List.map_cons, hkeys, List.forall_mem_cons]
    exact ⟨rfl, hresolve.1 _ _ _ _ hnode, hgood⟩

theorem optional_wellFormed {resolve : Node → Resolving Node} {value resolved : Option Node}
    {before after : Patterns} (hresolve : ∀ node ∈ value, Keeps (resolve node))
    (h : optional resolve value before = .ok (resolved, after)) :
    ∀ node ∈ resolved, node.WellFormed := by
  rcases optional_eq_ok h with ⟨-, rfl, -⟩ | ⟨inner, node, rfl, rfl, hnode⟩
  · simp
  · intro result hresult
    cases hresult
    exact hresolve inner rfl _ _ _ hnode

theorem descend_wellFormed {formats : Formats} {resolve : Path → Node → Resolving Node}
    {path : Path} {node : Node} (hnode : node.WellFormed)
    (hresolve : ∀ inner : Node, inner.WellFormed → ∀ path, Keeps (resolve path inner)) :
    Keeps (descend formats resolve path node) := by
  intro before result after h
  cases hnode with
  | dict hnodup hkeys hdynamic =>
    obtain ⟨keys', _, hkeys', h⟩ := run_bind_eq_ok.1 h
    obtain ⟨dynamicKeys', _, hdynamic', h⟩ := run_bind_eq_ok.1 h
    obtain ⟨rfl, -⟩ := run_pure_eq_ok.1 h
    have hbelow :=
      optional_wellFormed (fun node hnode => hresolve node (hdynamic node hnode) _) hdynamic'
    rcases optional_eq_ok hkeys' with ⟨-, rfl, -⟩ | ⟨keys, resolved, rfl, rfl, hresolved⟩
    · exact .dict (by simp) (by simp) hbelow
    · obtain ⟨hsame, hgood⟩ :=
        eachKey_wellFormed (fun entry hentry => hresolve entry.2 (hkeys entry hentry)) hresolved
      exact .dict (by rw [Option.getD_some, hsame]; exact hnodup) hgood hbelow
  | list hitems =>
    obtain ⟨items', _, hitems', h⟩ := run_bind_eq_ok.1 h
    obtain ⟨_, _, _, h⟩ := run_bind_eq_ok.1 h
    obtain ⟨rfl, -⟩ := run_pure_eq_ok.1 h
    exact .list (optional_wellFormed (fun node hnode => hresolve node (hitems node hnode) _)
      hitems')
  | str =>
    obtain ⟨_, _, _, h⟩ := run_bind_eq_ok.1 h
    obtain ⟨_, _, _, h⟩ := run_bind_eq_ok.1 h
    obtain ⟨rfl, -⟩ := run_pure_eq_ok.1 h
    exact .str
  | int =>
    obtain ⟨rfl, -⟩ := run_pure_eq_ok.1 h
    exact .int
  | bool =>
    obtain ⟨rfl, -⟩ := run_pure_eq_ok.1 h
    exact .bool

theorem overlay_wellFormed {reference : String} {path : Path} {target own result : Node}
    (htarget : target.WellFormed) (hown : own.WellFormed)
    (h : overlay reference path target own = .ok result) : result.WellFormed := by
  unfold overlay at h
  split at h
  · exact Node.merge_wellFormed htarget hown (mapError_eq_ok.1 h)
  · cases h

theorem expand_wellFormed {around : Surroundings} {guarded : Bool} {inProgress : List String}
    {resolve : List String → Node → Resolving Node} {path : Path} {node : Node}
    (hstore : around.store.WellFormed) (hnode : node.WellFormed)
    (hresolve : ∀ inner : Node, inner.WellFormed → ∀ inProgress, Keeps (resolve inProgress inner)) :
    Keeps (expand around guarded inProgress resolve path node) := by
  intro before result after h
  unfold expand at h
  cases hreference : node.attributes.reference with
  | none =>
    rw [hreference] at h
    obtain ⟨rfl, -⟩ := run_pure_eq_ok.1 h
    exact hnode
  | some reference =>
    rw [hreference] at h
    dsimp only at h
    split at h
    · obtain ⟨_, _, hfail, -⟩ := run_bind_eq_ok.1 h
      simp [fail] at hfail
    · obtain ⟨fragment, middle, hfragment, hrest⟩ := run_bind_eq_ok.1 h
      obtain ⟨target, last, htarget, hoverlay⟩ := run_bind_eq_ok.1 hrest
      obtain ⟨hfound, rfl⟩ := run_lift_eq_ok.1 hfragment
      obtain ⟨hoverlaid, rfl⟩ := run_lift_eq_ok.1 hoverlay
      have hgood := hresolve fragment (Store.fragment_wellFormed hstore hfound) _ _ _ _ htarget
      exact overlay_wellFormed hgood (hnode.withAttributes _) hoverlaid

theorem resolveWithin_wellFormed {around : Surroundings} {guarded : Bool}
    (hstore : around.store.WellFormed) (room : Nat) (inProgress : List String) (path : Path)
    {node : Node} (hnode : node.WellFormed) :
    Keeps (resolveWithin around guarded room inProgress path node) := by
  induction room generalizing inProgress path node with
  | zero =>
    intro before result after h
    simp [resolveWithin, fail] at h
  | succ room ih =>
    intro before result after h
    rw [resolveWithin] at h
    obtain ⟨expanded, middle, hexpand, hdescend⟩ := run_bind_eq_ok.1 h
    have hexpanded := expand_wellFormed hstore hnode
      (fun inner hinner inProgress => ih inProgress path hinner) _ _ _ hexpand
    exact descend_wellFormed hexpanded (fun inner hinner path => ih inProgress path hinner)
      _ _ _ hdescend

end Resolution

theorem Node.resolve_wellFormed {node root : Node} {around : Surroundings} {patterns : Patterns}
    (hstore : around.store.WellFormed) (hnode : node.WellFormed)
    (h : node.resolve around = .ok (root, patterns)) :
    root.WellFormed := Resolution.resolveWithin_wellFormed hstore _ [] [] hnode _ _ _ h

end DataSchema
