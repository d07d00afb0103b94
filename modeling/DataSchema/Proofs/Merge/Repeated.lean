import DataSchema.Proofs.Merge.Grouping

/-!
# Merging an overlay again

An overlay that was merged into a document has nothing left to say: merging it again gives the same
document, in the same order. That needs keyed lists in the overlay whose elements are all
identified, and a strategy that does not add the elements of other lists once more. The base may be
anything. Only the depth limit can get in the way, since subtrees of the overlay that were inserted
as they are were not walked the first time.
-/

namespace DataSchema

open Merge

/-! ### Runs that change nothing -/

/-- The run gives the value, unless it exceeds the depth limit. -/
def MergeError.Settles {α : Type} (limit : Nat) (value : α) (run : Except MergeError α) : Prop :=
  run = .ok value ∨ ∃ path, run = .error (.depthExceeded path limit)

namespace MergeError.Settles

variable {α β : Type} {limit : Nat} {a : α} {b : β} {run : Except MergeError α}

theorem ok : Settles limit a (.ok a) := .inl rfl

theorem bind {next : α → Except MergeError β} (h : Settles limit a run)
    (hnext : Settles limit b (next a)) :
    Settles limit b (run >>= next) := by
  rcases h with rfl | ⟨path, rfl⟩
  · exact hnext
  · exact .inr ⟨path, rfl⟩

theorem below (h : Settles limit a run) (segment : Segment) :
    Settles limit a (run.mapError (MergeError.below segment)) := by
  rcases h with rfl | ⟨path, rfl⟩
  · exact .inl rfl
  · exact .inr ⟨segment :: path, rfl⟩

end MergeError.Settles

/-! ### Overlays that can be merged again -/

/-- Every array that is reached through keys of dicts and elements of keyed lists can be merged
again: the elements of a keyed list are all identified, by scalars that are pairwise different, and
the strategy does not add the elements of another list once more. -/
inductive Repeatable (strategy : ListStrategy) : Option Node → Document → Prop
  | scalar {node value} : value.shape.isContainer = false → Repeatable strategy node value
  | object {node entries} :
      (∀ entry ∈ entries, Repeatable strategy (node.bind (·.child? entry.1)) entry.2) →
      Repeatable strategy node (.object entries)
  | unkeyed {node elements} :
      node.bind Node.primaryKey? = none → strategy ≠ .append → strategy ≠ .prepend →
      Repeatable strategy node (.array elements)
  | keyed {node elements key} : node.bind Node.primaryKey? = some key → DistinctKeys key elements →
      (∀ element ∈ elements, (element.getSet? key).isSome) →
      (∀ element ∈ elements, Repeatable strategy (node.bind Node.items?) element) →
        Repeatable strategy node (.array elements)

namespace Document

open MergeError

variable {options : MergeOptions} {depth : Nat} {node : Option Node}
  {base overlay merged : Document}

theorem settles_tooDeep (hdepth : options.maxDepth < depth) :
    Settles options.maxDepth merged (mergeAt options depth node merged overlay) := by
  refine .inr ⟨[], ?_⟩
  rw [mergeAt.eq_def]
  cases overlay <;> simp only [if_pos hdepth]

/-- Laying entries again changes nothing when none of them changes what is held under its key. -/
theorem settles_mergeEntries {entries overlay : Entries Document}
    (h : ∀ entry ∈ overlay, ∃ held, entries.lookup entry.1 = some held ∧
      Settles options.maxDepth held (mergeAt options depth (node.bind (·.child? entry.1))
        held entry.2)) :
    Settles options.maxDepth entries (mergeEntries options depth node entries overlay) := by
  induction overlay with
  | nil =>
    rw [mergeEntries]
    exact .ok
  | cons entry rest ih =>
    rw [List.forall_mem_cons] at h
    obtain ⟨⟨held, hlookup, hheld⟩, hrest⟩ := h
    rw [mergeEntries, hlookup]
    refine (hheld.below _).bind ?_
    rw [Entries.insert_of_lookup hlookup]
    exact ih hrest

theorem settles_mergeKeyed {key : String} {filed : List Slot} {overlay : List Document}
    (h : ∀ element ∈ overlay, ∃ identity held, identity? key element = some identity ∧
      held? identity filed = some held ∧
      Settles options.maxDepth held (mergeAt options depth node held element)) :
    Settles options.maxDepth filed (mergeKeyed options depth node key filed overlay) := by
  induction overlay with
  | nil =>
    rw [mergeKeyed]
    exact .ok
  | cons element rest ih =>
    rw [List.forall_mem_cons] at h
    obtain ⟨⟨identity, held, htag, hheld, hsettles⟩, hrest⟩ := h
    obtain ⟨⟨place, _⟩, hfind, rfl⟩ := Option.map_eq_some_iff.1 hheld
    rw [mergeKeyed, htag]
    dsimp only
    rw [hfind]
    refine (hsettles.below _).bind ?_
    rw [replace_of_find? hfind]
    exact ih hrest

theorem mergeAt_object (hdepth : depth ≤ options.maxDepth) (base overlay : Entries Document) :
    mergeAt options depth node (.object base) (.object overlay) =
      mergeEntries options (depth + 1) node base overlay >>= fun entries =>
        pure (.object entries) := by
  rw [mergeAt.eq_def]
  simp only [if_neg (Nat.not_lt.2 hdepth)]

theorem mergeAt_keyed (hdepth : depth ≤ options.maxDepth) {key : String}
    (hkey : node.bind Node.primaryKey? = some key) (base overlay : List Document) :
    mergeAt options depth node (.array base) (.array overlay) =
      mergeKeyed options (depth + 1) (node.bind Node.items?) key (slots key base) overlay >>=
        fun filed =>
        pure (.array (filed.map Prod.snd)) := by
  rw [mergeAt.eq_def]
  simp only [if_neg (Nat.not_lt.2 hdepth), hkey]

/-- What a place of the result holds does not change when the value of the overlay there is merged
again: it was inserted as it is, or merged. -/
theorem exists_settles_of_combined {base merged : Option Document} {overlay : Document}
    (hagain : ∀ base merged, merged? options depth node base overlay = some merged →
      Settles options.maxDepth merged (mergeAt options depth node merged overlay))
    (h : Combined (fun x y merged => merged? options depth node x y = some merged) base
      (some overlay) merged) :
    ∃ held, merged = some held ∧
      Settles options.maxDepth held (mergeAt options depth node held overlay) := by
  cases h with
  | overlay =>
    refine ⟨overlay, rfl, ?_⟩
    by_cases hdepth : options.maxDepth < depth
    · exact settles_tooDeep hdepth
    · exact hagain .null overlay (merged?_null_left (Nat.le_of_not_lt hdepth) overlay)
  | both hmerged => exact ⟨_, rfl, hagain _ _ hmerged⟩

theorem settles_of_merged? (hrepeatable : Repeatable options.strategy node overlay)
    (hwellFormed : overlay.WellFormed) (h : merged? options depth node base overlay = some merged) :
    Settles options.maxDepth merged (mergeAt options depth node merged overlay) := by
  have hsame : ∀ {depth node merged overlay},
      merged? options depth node merged overlay = some merged →
      Settles options.maxDepth merged (mergeAt options depth node merged overlay) :=
    fun h => .inl (toOption_eq_some.1 h)
  induction hrepeatable generalizing depth base merged with
  | @scalar node overlay hscalar =>
    have hdepth := le_maxDepth_of_merged? h
    by_cases hnull : overlay = .null
    · exact hsame (hnull ▸ merged?_null_right hdepth merged)
    · have hoverlay : merged = overlay := by
        cases merges_of_merged? h with
        | base => exact absurd rfl hnull
        | overlay => rfl
        | objects | keyed | unkeyed => cases hscalar
      rw [hoverlay]
      exact hsame (merged?_scalar hdepth hscalar hscalar hnull)
  | @object node overlay _ ih =>
    have hdepth := le_maxDepth_of_merged? h
    obtain ⟨hnodup, hvalues⟩ := wellFormed_object.1 hwellFormed
    obtain ⟨base', entries, rfl, hcombined⟩ : ∃ base' : Entries Document, ∃ entries,
        merged = .object entries ∧ ∀ key,
        Combined (fun x y merged => merged? options (depth + 1) (node.bind (·.child? key)) x y =
            some merged)
          (base'.lookup key) (overlay.lookup key) (entries.lookup key) := by
      cases merges_of_merged? h with
      | overlay => exact ⟨[], overlay, rfl, fun key => .of_absent _⟩
      | objects hlaid => exact ⟨_, _, rfl, combined_lookup hnodup hlaid⟩
    rw [mergeAt_object hdepth]
    refine (settles_mergeEntries fun entry hentry => ?_).bind .ok
    have hentryCombined := hcombined entry.1
    rw [Entries.lookup_of_mem hnodup hentry] at hentryCombined
    exact exists_settles_of_combined (fun _ _ => ih entry hentry (hvalues entry hentry))
      hentryCombined
  | @unkeyed node overlay hkey happend hprepend =>
    have hdepth := le_maxDepth_of_merged? h
    obtain ⟨elements, rfl, hcombine⟩ : ∃ elements, merged = .array elements ∧
        options.strategy.combine elements overlay = elements := by
      cases merges_of_merged? h with
      | overlay =>
        refine ⟨overlay, rfl, ?_⟩
        cases hstrategy : options.strategy <;> first | rfl | contradiction
      | unkeyed =>
        refine ⟨_, rfl, ?_⟩
        cases hstrategy : options.strategy <;> first | rfl | contradiction
      | keyed hsome => cases hkey.symm.trans hsome
    exact hsame ((merged?_unkeyed hdepth hkey elements overlay).trans (by rw [hcombine]))
  | @keyed node overlay key hkey hdistinct hidentified _ ih =>
    have hdepth := le_maxDepth_of_merged? h
    have hvalues := wellFormed_array.1 hwellFormed
    have hnodup : (tags (slots key overlay)).Nodup := tags_slots key overlay ▸ hdistinct.distinct
    obtain ⟨base', filed, rfl, htagged, hcombined⟩ : ∃ base' filed,
        merged = .array (filed.map Prod.snd) ∧
        (∀ slot ∈ filed, identity? key slot.2 = slot.1) ∧ ∀ identity,
          Combined (fun x y merged => merged? options (depth + 1) (node.bind Node.items?) x y =
              some merged)
            (held? identity base') (held? identity (slots key overlay)) (held? identity filed) := by
      cases merges_of_merged? h with
      | overlay =>
        refine ⟨[], slots key overlay, ?_, fun _ => identity?_of_mem_slots,
          fun identity => .of_absent _⟩
        rw [map_snd_slots]
      | unkeyed hnone => cases hkey.symm.trans hnone
      | keyed hsome hlaid =>
        cases hkey.symm.trans hsome
        exact ⟨_, _, rfl, identity?_layAll hdistinct hvalues hlaid, combined_layAll hnodup hlaid⟩
    rw [mergeAt_keyed hdepth hkey, slots_map_snd htagged]
    refine (settles_mergeKeyed fun element helement => ?_).bind .ok
    obtain ⟨identity, hidentity⟩ : ∃ identity, identity? key element = some identity := by
      rw [← Option.isSome_iff_exists, identity?, Option.isSome_map]
      exact hidentified element helement
    have helementCombined := hcombined identity
    rw [held?_of_mem hnodup (List.mem_map.2 ⟨element, helement, by rw [hidentity]⟩)]
      at helementCombined
    obtain ⟨held, hheld, hsettles⟩ :=
      exists_settles_of_combined (fun _ _ => ih element helement (hvalues element helement))
        helementCombined
    exact ⟨identity, held, hidentity, hheld, hsettles⟩

/-- Merging an overlay again changes nothing, unless the result is too deep to be merged into; in
particular an overlay merged into itself stays what it is. -/
theorem merge_again (hrepeatable : Repeatable options.strategy node overlay)
    (hwellFormed : overlay.WellFormed) :
    (∀ base merged, merge options node base overlay = .ok merged →
      merge options node merged overlay = .ok merged ∨
        ∃ path, merge options node merged overlay = .error (.depthExceeded path options.maxDepth)) ∧
    (merge options node overlay overlay = .ok overlay ∨
      ∃ path, merge options node overlay overlay =
        .error (.depthExceeded path options.maxDepth)) := by
  have hagain : ∀ base merged, merge options node base overlay = .ok merged →
      merge options node merged overlay = .ok merged ∨
        ∃ path, merge options node merged overlay = .error (.depthExceeded path options.maxDepth) :=
    fun _ _ hmerge => settles_of_merged? hrepeatable hwellFormed (toOption_eq_some.2 hmerge)
  exact ⟨hagain,
    hagain .null overlay (toOption_eq_some.1 (merged?_null_left (Nat.zero_le _) overlay))⟩

/-- The base names one of its hosts twice; the overlay moves the first of the two and adds a host,
in the order of the base. -/
theorem merge_again_hosts : ∃ merged,
    Repeatable .append (some hostsNode) (.array [host "b" 3, host "c" 4]) ∧
    merge .standard (some hostsNode) (.array [host "b" 1, host "a" 2, host "b" 7])
      (.array [host "b" 3, host "c" 4]) = .ok merged ∧
    (merge .standard (some hostsNode) merged (.array [host "b" 3, host "c" 4]) = .ok merged ∨
      ∃ path, merge .standard (some hostsNode) merged (.array [host "b" 3, host "c" 4]) =
        .error (.depthExceeded path 128)) := by
  have hmergeable : Mergeable (some hostsNode) (.array [host "b" 3, host "c" 4]) :=
    @mergeable_hosts [("b", 3), ("c", 4)] (by decide +kernel)
  have hrepeatable : Repeatable .append (some hostsNode) (.array [host "b" 3, host "c" 4]) := by
    obtain ⟨hdistinct, -⟩ := (Mergeable.keyed_iff rfl).1 hmergeable
    refine .keyed rfl hdistinct ?_ ?_
    · simp only [List.forall_mem_cons]
      exact ⟨rfl, rfl, by simp⟩
    · simp only [List.forall_mem_cons]
      have hhost : ∀ name port, Repeatable .append ((some hostsNode).bind Node.items?)
          (host name port) := by
        intro name port
        refine .object ?_
        simp only [List.forall_mem_cons]
        exact ⟨.scalar rfl, .scalar rfl, by simp⟩
      exact ⟨hhost "b" 3, hhost "c" 4, by simp⟩
  have hresult : merge .standard (some hostsNode) (.array [host "b" 1, host "a" 2, host "b" 7])
      (.array [host "b" 3, host "c" 4]) =
      .ok (.array [host "b" 3, host "a" 2, host "b" 7, host "c" 4]) := by
    rw [← toOption_eq_some]
    decide +kernel
  exact ⟨_, hrepeatable, hresult,
    (@merge_again .standard _ _ hrepeatable hmergeable.wellFormed).1 _ _ hresult⟩

end Document

end DataSchema
