import DataSchema.Proofs.Merge.Documents

/-!
# Well keyed documents

A keyed list is an ordered map when its elements are identified by scalars, no two of them in the
same way. A document in which every keyed list that a merge can reach is of this kind stays one when
another is merged into it: elements merge only with those of the same identity and keep it.
-/

namespace DataSchema

open Merge Document

/-- The elements that have the key set are told apart by it, and by scalars. Elements
without the key are allowed. -/
structure DistinctKeys (key : String) (elements : List Document) : Prop where
  scalar : ∀ element ∈ elements, ∀ value, element.getSet? key = some value →
    value.shape.isContainer = false
  distinct : (elements.filterMap (identity? key)).Nodup

/-- Every array that is reached through keys of dicts and elements of keyed lists, and is governed
by a list with a primary key, has distinct keys. -/
inductive WellKeyed : Option Node → Document → Prop
  | scalar {node value} : value.shape.isContainer = false → WellKeyed node value
  | object {node entries} : (∀ entry ∈ entries, WellKeyed (node.bind (·.child? entry.1)) entry.2) →
      WellKeyed node (.object entries)
  | unkeyed {node elements} : node.bind Node.primaryKey? = none → WellKeyed node (.array elements)
  | keyed {node elements key} : node.bind Node.primaryKey? = some key → DistinctKeys key elements →
      (∀ element ∈ elements, WellKeyed (node.bind Node.items?) element) →
        WellKeyed node (.array elements)

/-- A document that merges well: no object holds a key twice, and keyed lists have distinct keys. -/
structure Mergeable (node : Option Node) (document : Document) : Prop where
  wellFormed : document.WellFormed
  wellKeyed : WellKeyed node document

variable {options : MergeOptions} {depth : Nat} {node : Option Node}

namespace Mergeable

theorem null : Mergeable node .null := ⟨trivial, .scalar rfl⟩

theorem object_iff {entries : Entries Document} : Mergeable node (.object entries) ↔
    (entries.map Prod.fst).Nodup ∧ ∀ entry ∈ entries,
      Mergeable (node.bind (·.child? entry.1)) entry.2 := by
  constructor
  · rintro ⟨hwellFormed, hwellKeyed⟩
    obtain ⟨hnodup, hvalues⟩ := wellFormed_object.1 hwellFormed
    cases hwellKeyed with
    | scalar h => cases h
    | object hentries =>
      exact ⟨hnodup, fun entry hentry => ⟨hvalues entry hentry, hentries entry hentry⟩⟩
  · rintro ⟨hnodup, hentries⟩
    exact ⟨wellFormed_object.2 ⟨hnodup, fun entry hentry => (hentries entry hentry).wellFormed⟩,
      .object fun entry hentry => (hentries entry hentry).wellKeyed⟩

theorem keyed_iff {key : String} (hkey : node.bind Node.primaryKey? = some key)
    {elements : List Document} :
    Mergeable node (.array elements) ↔
      DistinctKeys key elements ∧ ∀ element ∈ elements,
        Mergeable (node.bind Node.items?) element := by
  constructor
  · rintro ⟨hwellFormed, hwellKeyed⟩
    have helements := wellFormed_array.1 hwellFormed
    cases hwellKeyed with
    | scalar h => cases h
    | unkeyed hnone => simp [hkey] at hnone
    | keyed hsome hdistinct hbelow =>
      cases hkey.symm.trans hsome
      exact ⟨hdistinct, fun element hmem => ⟨helements element hmem, hbelow element hmem⟩⟩
  · rintro ⟨hdistinct, helements⟩
    exact ⟨wellFormed_array.2 fun element hmem => (helements element hmem).wellFormed,
      .keyed hkey hdistinct fun element hmem => (helements element hmem).wellKeyed⟩

end Mergeable

/-! ### Identities survive merging -/

theorem identity?_eq_some {key identity : String} {element : Document}
    (h : identity? key element = some identity) :
    ∃ entries value, element = .object entries ∧ entries.lookup key = some value ∧ value ≠ .null ∧
      value.compact = identity := by
  obtain ⟨value, hset, hcompact⟩ := Option.map_eq_some_iff.1 h
  obtain ⟨hget, hnull⟩ := getSet?_eq_some.1 hset
  cases element with
  | object entries => exact ⟨entries, value, rfl, hget, hnull, hcompact⟩
  | _ => cases hget

/-- The slots of a keyed list whose elements carry the tags they are filed under. -/
def Tagged (key : String) (slot : Slot) : Prop :=
  identity? key slot.2 = slot.1 ∧ ∀ value, slot.2.getSet? key = some value →
    value.shape.isContainer = false

/-- Two elements that are merged because of their identity leave an element with this identity, if
the overlay has it from a scalar. -/
theorem tagged_of_merged? {key identity : String} {base overlay merged : Document}
    (hbase : identity? key base = some identity) (hoverlay : Tagged key (some identity, overlay))
    (hwellFormed : overlay.WellFormed) (h : merged? options depth node base overlay = some merged) :
    Tagged key (some identity, merged) := by
  obtain ⟨baseEntries, x, rfl, hx, hxnull, -⟩ := identity?_eq_some hbase
  obtain ⟨overlayEntries, y, rfl, hy, hynull, hcompact⟩ := identity?_eq_some hoverlay.1
  obtain ⟨entries, rfl, hlaid⟩ := merged?_object_eq_some h
  have hnodup : (overlayEntries.map Prod.fst).Nodup := (wellFormed_object.1 hwellFormed).1
  obtain ⟨value, hvalue, hlookup⟩ := lookup_of_layAll hnodup hlaid hx (Entries.mem_of_lookup hy)
  have hscalar := hoverlay.2 y (getSet?_eq_some.2 ⟨hy, hynull⟩)
  have hxscalar := isContainer_eq_of_form_eq (form_of_merged? hvalue hxnull hynull).1
  rw [merged?_scalar (le_maxDepth_of_merged? hvalue) (hxscalar.trans hscalar) hscalar hynull]
    at hvalue
  cases hvalue
  have hmerged : (object entries).getSet? key = some y := getSet?_eq_some.2 ⟨hlookup, hynull⟩
  constructor
  · rw [identity?, hmerged, Option.map_some, hcompact]
  · intro value hvalue
    cases hmerged.symm.trans hvalue
    exact hscalar

/-! ### Merging keeps documents mergeable -/

theorem DistinctKeys.tagged {key : String} {elements : List Document}
    (h : DistinctKeys key elements) :
    ∀ slot ∈ slots key elements, Tagged key slot := by
  intro slot hslot
  exact ⟨identity?_of_mem_slots hslot, h.scalar slot.2 (mem_of_mem_slots hslot)⟩

theorem slots_map_snd {key : String} {filed : List Slot}
    (h : ∀ slot ∈ filed, identity? key slot.2 = slot.1) :
    slots key (filed.map Prod.snd) = filed := by
  rw [slots, List.map_map]
  conv => rhs; rw [← List.map_id filed]
  exact List.map_congr_left fun slot hslot => Prod.ext (h slot hslot) rfl

theorem distinctKeys_of_tagged {key : String} {filed : List Slot}
    (h : ∀ slot ∈ filed, Tagged key slot) (hnodup : (tags filed).Nodup) :
    DistinctKeys key (filed.map Prod.snd) where
  scalar := by
    rw [List.forall_mem_map]
    exact fun slot hslot => (h slot hslot).2
  distinct := by
    rw [← tags_slots, slots_map_snd fun slot hslot => (h slot hslot).1]
    exact hnodup

theorem identity?_layAll {key : String} {base overlay : List Document} {result : List Slot}
    (hoverlay : DistinctKeys key overlay) (hwellFormed : ∀ element ∈ overlay, element.WellFormed)
    (h : layAll (fun _ => merged? options depth node) (slots key base) (slots key overlay) =
      some result) :
    ∀ slot ∈ result, identity? key slot.2 = slot.1 := by
  refine forall_mem_layAll (fun _ => identity?_of_mem_slots) (fun _ => identity?_of_mem_slots)
    (fun identity x y merged hx hy hmerged => ?_) h
  exact (tagged_of_merged? hx (hoverlay.tagged _ hy)
    (hwellFormed y (mem_of_mem_slots hy)) hmerged).1

/-- The merged slots of two keyed lists carry their own tags, pairwise different, when their
elements are well-formed. -/
theorem layAll_slots {key : String} {base overlay : List Document} {result : List Slot}
    (hbase : DistinctKeys key base) (hoverlay : DistinctKeys key overlay)
    (hwellFormed : ∀ element ∈ overlay, element.WellFormed)
    (h : layAll (fun _ => merged? options depth node) (slots key base) (slots key overlay) =
      some result) :
    (∀ slot ∈ result, Tagged key slot) ∧ (tags result).Nodup := by
  refine ⟨forall_mem_layAll hbase.tagged hoverlay.tagged
    (fun identity x y merged hx hy hmerged => ?_) h, ?_⟩
  · have hmem : y ∈ overlay := mem_of_mem_slots hy
    exact tagged_of_merged? hx.1 (hoverlay.tagged _ hy) (hwellFormed y hmem) hmerged
  · refine nodup_tags_layAll ?_ h
    rw [tags_slots]
    exact hbase.distinct

theorem Mergeable.of_laid_entries {base overlay entries : Entries Document}
    (hbase : Mergeable node (.object base)) (hoverlay : Mergeable node (.object overlay))
    (hmerged : ∀ key x y merged, (key, y) ∈ overlay → Mergeable (node.bind (·.child? key)) x →
      Mergeable (node.bind (·.child? key)) y →
      Document.merged? options depth (node.bind (·.child? key)) x y = some merged →
      Mergeable (node.bind (·.child? key)) merged)
      (h : layAll (fun key => Document.merged? options depth (node.bind (·.child? key)))
        (entrySlots base) (entrySlots overlay) =
      some (entrySlots entries)) : Mergeable node (.object entries) := by
  obtain ⟨hnodup, hentries⟩ := Mergeable.object_iff.1 hbase
  obtain ⟨-, hentries'⟩ := Mergeable.object_iff.1 hoverlay
  let good : Slot → Prop :=
    fun slot => ∀ key, slot.1 = some key → Mergeable (node.bind (·.child? key)) slot.2
  have hslots : ∀ entries : Entries Document,
      (∀ entry ∈ entries, Mergeable (node.bind (·.child? entry.1)) entry.2) →
      ∀ slot ∈ entrySlots entries, good slot := by
    intro entries hentries slot hslot key htag
    obtain ⟨entry, hentry, rfl⟩ := List.mem_map.1 hslot
    cases htag
    exact hentries entry hentry
  have hresult : ∀ slot ∈ entrySlots entries, good slot := by
    refine forall_mem_layAll (hslots base hentries) (hslots overlay hentries')
      (fun key x y merged hx hy hm => ?_) h
    intro key' htag
    cases htag
    have hmem : (key, y) ∈ overlay := mem_entrySlots.1 hy
    exact hmerged key x y merged hmem (hx key rfl) (hentries' _ hmem) hm
  refine Mergeable.object_iff.2 ⟨?_, fun entry hentry =>
    hresult _ (mem_entrySlots.2 hentry) entry.1 rfl⟩
  rw [← tags_entrySlots]
  refine nodup_tags_layAll ?_ h
  rw [tags_entrySlots]
  exact hnodup

theorem Mergeable.of_laid_slots {key : String} (hkey : node.bind Node.primaryKey? = some key)
    {base overlay : List Document} {result : List Slot}
    (hbase : Mergeable node (.array base)) (hoverlay : Mergeable node (.array overlay))
    (hmerged : ∀ x y merged, y ∈ overlay → Mergeable (node.bind Node.items?) x →
      Mergeable (node.bind Node.items?) y →
      Document.merged? options depth (node.bind Node.items?) x y = some merged →
      Mergeable (node.bind Node.items?) merged)
      (h : layAll (fun _ => Document.merged? options depth (node.bind Node.items?)) (slots key base)
        (slots key overlay) = some result) :
    Mergeable node (.array (result.map Prod.snd)) := by
  obtain ⟨hdistinct, helements⟩ := (Mergeable.keyed_iff hkey).1 hbase
  obtain ⟨hdistinct', helements'⟩ := (Mergeable.keyed_iff hkey).1 hoverlay
  obtain ⟨htagged, hnodup⟩ :=
    layAll_slots hdistinct hdistinct' (fun element hmem => (helements' element hmem).wellFormed) h
  have hresult : ∀ slot ∈ result, Mergeable (node.bind Node.items?) slot.2 := by
    refine forall_mem_layAll (fun slot hslot => helements _ (mem_of_mem_slots hslot))
      (fun slot hslot => helements' _ (mem_of_mem_slots hslot))
      (fun identity x y merged hx hy hm => ?_) h
    have hmem : y ∈ overlay := mem_of_mem_slots hy
    exact hmerged x y merged hmem hx (helements' y hmem) hm
  refine (Mergeable.keyed_iff hkey).2 ⟨distinctKeys_of_tagged htagged hnodup, ?_⟩
  rw [List.forall_mem_map]
  exact hresult

theorem mem_of_mem_combine {strategy : ListStrategy} {base overlay : List Document}
    {element : Document} (h : element ∈ strategy.combine base overlay) :
    element ∈ base ∨ element ∈ overlay := by
  cases strategy with
  | append => exact List.mem_append.1 h
  | prepend => exact (List.mem_append.1 h).symm
  | replace => exact .inr h
  | keep => exact .inl h

theorem Mergeable.combine (hkey : node.bind Node.primaryKey? = none) {base overlay : List Document}
    (hbase : Mergeable node (.array base)) (hoverlay : Mergeable node (.array overlay))
    (strategy : ListStrategy) :
    Mergeable node (.array (strategy.combine base overlay)) := by
  refine ⟨wellFormed_array.2 fun element hmem => ?_, .unkeyed hkey⟩
  rcases mem_of_mem_combine hmem with hmem | hmem
  · exact wellFormed_array.1 hbase.wellFormed element hmem
  · exact wellFormed_array.1 hoverlay.wellFormed element hmem

theorem Mergeable.merged? {base overlay result : Document}
    (hbase : Mergeable node base) (hoverlay : Mergeable node overlay)
    (h : Document.merged? options depth node base overlay = some result) :
    Mergeable node result := by
  induction overlay generalizing base result depth node with
  | object overlay ih =>
    cases merges_of_merged? h with
    | overlay => exact hoverlay
    | objects hlaid =>
      exact hbase.of_laid_entries hoverlay (fun key x y merged hmem hx hy hm => ih (key,
        y) hmem hx hy hm) hlaid
  | array overlay ih =>
    cases merges_of_merged? h with
    | overlay => exact hoverlay
    | unkeyed hkey => exact hbase.combine hkey hoverlay options.strategy
    | keyed hkey hlaid =>
      exact hbase.of_laid_slots hkey hoverlay (fun x y merged hmem hx hy hm =>
        ih y hmem hx hy hm) hlaid
  | null =>
    cases merges_of_merged? h with
    | base => exact hbase
    | overlay => exact hoverlay
  | bool | int | float | string =>
    cases merges_of_merged? h with
    | overlay => exact hoverlay

end DataSchema
