import DataSchema.Proofs.Merge.Documents

/-!
# Where a merge stops

A merge fails at a place that both documents have: it is too deep, or the two values
there do not have the same form. The error says where, seen from the top; each step up
adds a segment to its path.
-/

namespace DataSchema

open Merge

namespace Document

variable {options : MergeOptions} {depth : Nat} {node : Option Node} {error : MergeError}

theorem mergeEntries_eq_error {base overlay : Entries Document}
    (hnodup : (overlay.map Prod.fst).Nodup)
    (h : mergeEntries options depth node base overlay = .error error) :
    ∃ key x y inner, base.lookup key = some x ∧ (key, y) ∈ overlay ∧
      mergeAt options depth (node.bind (·.child? key)) x y = .error inner ∧
      error = inner.below (.key key) := by
  induction overlay generalizing base with
  | nil =>
    rw [mergeEntries] at h
    cases h
  | cons entry rest ih =>
    obtain ⟨key, value⟩ := entry
    rw [List.map_cons, List.nodup_cons] at hnodup
    -- entries laid earlier do not concern the keys that follow
    have hlater : ∀ merged, mergeEntries options depth node (base.insert key merged) rest =
        .error error →
        ∃ later x y inner, base.lookup later = some x ∧ (later, y) ∈ (key, value) :: rest ∧
          mergeAt options depth (node.bind (·.child? later)) x y = .error inner ∧
          error = inner.below (.key later) := by
      intro merged hrest
      obtain ⟨later, x, y, inner, hx, hy, hinner⟩ := ih hnodup.2 hrest
      have hmem : later ∈ rest.map Prod.fst := List.mem_map_of_mem (f := Prod.fst) hy
      have hne : later ≠ key := fun heq => hnodup.1 (heq ▸ hmem)
      rw [Entries.lookup_insert_of_ne hne] at hx
      exact ⟨later, x, y, inner, hx, List.mem_cons_of_mem _ hy, hinner⟩
    rw [mergeEntries] at h
    cases hlookup : base.lookup key with
    | none =>
      rw [hlookup] at h
      exact hlater value h
    | some current =>
      rw [hlookup] at h
      rcases bind_eq_error h with hmerge | ⟨merged, -, hrest⟩
      · obtain ⟨inner, hinner, rfl⟩ := mapError_eq_error hmerge
        exact ⟨key, current, value, inner, hlookup, List.mem_cons_self, hinner, rfl⟩
      · exact hlater merged hrest

theorem mergeKeyed_eq_error {key : String} {base : List Slot} {overlay : List Document}
    (hnodup : (overlay.filterMap (identity? key)).Nodup)
    (h : mergeKeyed options depth node key base overlay = .error error) :
    ∃ identity place x y inner, find? identity base = some (place, x) ∧ y ∈ overlay ∧
      identity? key y = some identity ∧ mergeAt options depth node x y = .error inner ∧
      error = inner.below (.index place) := by
  induction overlay generalizing base with
  | nil =>
    rw [mergeKeyed] at h
    cases h
  | cons element rest ih =>
    rw [mergeKeyed] at h
    cases hidentity : identity? key element with
    | none =>
      rw [List.filterMap_cons_none hidentity] at hnodup
      rw [hidentity] at h
      obtain ⟨identity, place, x, y, inner, hx, hy, hinner⟩ := ih hnodup h
      rw [find?_append_of_ne (by simp)] at hx
      exact ⟨identity, place, x, y, inner, hx, List.mem_cons_of_mem _ hy, hinner⟩
    | some identity =>
      rw [List.filterMap_cons_some hidentity, List.nodup_cons] at hnodup
      rw [hidentity] at h
      -- elements laid earlier do not concern the identities that follow
      have hlater : ∀ laid, (∀ other, other ≠ identity → find? other laid = find? other base) →
          mergeKeyed options depth node key laid rest = .error error →
          ∃ identity place x y inner, find? identity base = some (place, x) ∧ y ∈ element :: rest ∧
            identity? key y = some identity ∧ mergeAt options depth node x y = .error inner ∧
            error = inner.below (.index place) := by
        intro laid hsame hrest
        obtain ⟨later, place, x, y, inner, hx, hy, hlater, hinner⟩ := ih hnodup.2 hrest
        have hmem : later ∈ rest.filterMap (identity? key) := List.mem_filterMap.2 ⟨y, hy, hlater⟩
        have hne : later ≠ identity := fun heq => hnodup.1 (heq ▸ hmem)
        rw [hsame later hne] at hx
        exact ⟨later, place, x, y, inner, hx, List.mem_cons_of_mem _ hy, hlater, hinner⟩
      dsimp only at h
      cases hfind : find? identity base with
      | none =>
        rw [hfind] at h
        exact hlater _ (fun other hne => find?_append_of_ne (by simpa using hne.symm)) h
      | some found =>
        obtain ⟨place, current⟩ := found
        rw [hfind] at h
        rcases bind_eq_error h with hmerge | ⟨merged, -, hrest⟩
        · obtain ⟨inner, hinner, rfl⟩ := mapError_eq_error hmerge
          exact ⟨identity, place, current, element, inner, hfind, List.mem_cons_self,
            hidentity, hinner, rfl⟩
        · exact hlater _ (fun other hne => find?_replace_of_ne hne merged) hrest

/-- A merge fails at the top, where the values are too deep or do not fit together, or below it. -/
theorem mergeAt_eq_error {base overlay : Document}
    (h : mergeAt options depth node base overlay = .error error) :
    (options.maxDepth < depth ∧ error = .depthExceeded [] options.maxDepth) ∨
    (base ≠ .null ∧ overlay ≠ .null ∧ base.form ≠ overlay.form ∧
      error = .structureMismatch [] base.shape overlay.shape) ∨
    (∃ entries entries', base = .object entries ∧ overlay = .object entries' ∧
      mergeEntries options (depth + 1) node entries entries' = .error error) ∨
    ∃ elements elements' key, base = .array elements ∧ overlay = .array elements' ∧
      node.bind Node.primaryKey? = some key ∧
      mergeKeyed options (depth + 1) (node.bind Node.items?) key (slots key elements) elements' =
        .error error := by
  rw [mergeAt.eq_def] at h
  by_cases hdepth : depth > options.maxDepth
  · refine .inl ⟨hdepth, ?_⟩
    cases overlay <;> simp only [if_pos hdepth] at h <;> cases h <;> rfl
  refine .inr ?_
  cases overlay with
  | null =>
    simp only [if_neg hdepth] at h
    cases h
  | object entries' =>
    simp only [if_neg hdepth] at h
    cases base with
    | null => cases h
    | object entries =>
      rcases bind_eq_error h with hentries | ⟨merged, -, hok⟩
      · exact .inr (.inl ⟨entries, entries', rfl, rfl, hentries⟩)
      · cases hok
    | _ =>
      cases h
      exact .inl (by simp [form, shape])
  | array elements' =>
    simp only [if_neg hdepth] at h
    cases base with
    | null => cases h
    | array elements =>
      cases hkey : node.bind Node.primaryKey? with
      | none =>
        simp only [hkey] at h
        cases h
      | some key =>
        simp only [hkey] at h
        rcases bind_eq_error h with helements | ⟨merged, -, hok⟩
        · exact .inr (.inr ⟨elements, elements', key, rfl, rfl, rfl, helements⟩)
        · cases hok
    | _ =>
      cases h
      exact .inl (by simp [form, shape])
  | bool | int | float | string =>
    simp only [if_neg hdepth] at h
    cases base with
    | array | object =>
      cases h
      exact .inl (by simp [form, shape])
    | _ => cases h

end Document

end DataSchema
