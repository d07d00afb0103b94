import DataSchema.Proofs.Merge.WellKeyed
import DataSchema.Proofs.Node.Steps
import DataSchema.Proofs.Validation.Coherence

/-!
# Merging coherent documents

Merging two documents that a node governs leaves them coherent. Keys that are set stay set, elements
that are merged keep their identity, and what is merged is governed by the same node. That needs
keyed lists whose elements are told apart by scalars, as a schema asks for when the primary keys of
its lists are texts, integers or flags.
-/

namespace DataSchema

open Merge Document Validation

/-- Every list with a primary key declares its elements, and the key to be a
text, an integer or a flag. -/
def Node.KeyedByScalars (node : Node) : Prop :=
  ∀ steps a items c key, node.at? steps = some (.list a items c) → c.primaryKey = some key →
    ∃ item ∈ items, ∃ child, item.staticKey? key = some child ∧ child.kind ∈ [Kind.str, .int, .bool]

namespace Node.KeyedByScalars

variable {node child : Node}

theorem below? {step : Step} (h : node.KeyedByScalars) (hchild : node.below? step = some child) :
    child.KeyedByScalars := by
  intro steps a items c key hlist hkey
  exact h (step :: steps) a items c key (Option.bind_eq_some_iff.2 ⟨child, hchild, hlist⟩) hkey

theorem child? {key : String} (h : node.KeyedByScalars) (hchild : node.child? key = some child) :
    child.KeyedByScalars := by
  obtain ⟨step, hbelow⟩ := Node.exists_below?_of_child? hchild
  exact h.below? hbelow

theorem items? (h : node.KeyedByScalars) (hitem : node.items? = some child) :
    child.KeyedByScalars :=
  h.below? (Node.below?_of_items? hitem)

/-- The condition holds of a node when it holds of the lists among the node
and those directly below. -/
theorem of_below (hlist : ∀ a items c key, node = .list a items c → c.primaryKey = some key →
    ∃ item ∈ items, ∃ child, item.staticKey? key = some child ∧ child.kind ∈ [Kind.str, .int,
      .bool]) (hbelow : ∀ step inner, node.below? step = some inner → inner.KeyedByScalars) :
    node.KeyedByScalars := by
  intro steps a items c key hfound hkey
  cases steps with
  | nil => exact hlist a items c key (Option.some.inj hfound) hkey
  | cons step rest =>
    obtain ⟨inner, hinner, hrest⟩ := Option.bind_eq_some_iff.1 hfound
    exact hbelow step inner hinner rest a items c key hrest hkey

end Node.KeyedByScalars

variable {formats : Formats} {options : MergeOptions} {depth : Nat} {node : Node}
  {required : Option String}

/-! ### Coherent documents can be merged -/

theorem wellKeyed_ungoverned (value : Document) : WellKeyed none value := by
  induction value with
  | object entries ih => exact .object fun entry hentry => ih entry hentry
  | array => exact .unkeyed rfl
  | null | bool | int | float | string => exact .scalar rfl

theorem Coherent.isContainer_eq_false {item child : Node} {key : String} {element value : Document}
    (h : Coherent formats item required element) (hkey : item.staticKey? key = some child)
    (hscalar : child.kind ∈ [Kind.str, .int, .bool]) (hset : element.getSet? key = some value) :
    value.shape.isContainer = false := by
  obtain ⟨hget, hnull⟩ := getSet?_eq_some.1 hset
  cases h with
  | @dict a keys dynamicKeys other _ entries hgoverned =>
    cases keys with
    | none => cases hkey
    | some keys =>
      have hlookup : keys.lookup key = some child := hkey
      have hchild : (Node.dict a (some keys) dynamicKeys other).child? key = some child := by
        rw [Node.child?, Option.bind_some, hlookup, Option.some_or]
      have hadmits := (hgoverned _ (Entries.mem_of_lookup hget) child hchild).admits hnull
      cases value <;> first | rfl | (cases child <;>
        simp [Kind.admits, Node.kind] at hadmits hscalar)
  | _ => cases hget

theorem Coherent.wellKeyed (hnode : node.KeyedByScalars) {value : Document}
    (h : Coherent formats node required value) : WellKeyed (some node) value := by
  induction h with
  | null | str | int | bool => exact .scalar rfl
  | @dict a keys dynamicKeys other _ entries _ _ _ ih =>
    refine .object fun entry hentry => ?_
    change WellKeyed ((Node.dict a keys dynamicKeys other).child? entry.1) entry.2
    cases hchild : (Node.dict a keys dynamicKeys other).child? entry.1 with
    | none => exact wellKeyed_ungoverned entry.2
    | some child => exact ih entry hentry child hchild (hnode.child? hchild)
  | @list a items _ values c _ _ heach hdistinct ih =>
    cases hkey : c.primaryKey with
    | none => exact .unkeyed hkey
    | some key =>
      obtain ⟨item, hitem, child, hchild, hscalar⟩ := hnode [] a items c key rfl hkey
      cases hitem
      rw [hkey] at hdistinct
      refine .keyed hkey ⟨fun element helement value hset => ?_, hdistinct⟩
        fun element helement => ?_
      · exact (heach item rfl element helement).isContainer_eq_false hchild hscalar hset
      · exact ih item rfl element helement (hnode.items? rfl)

theorem Coherent.mergeable (hnode : node.KeyedByScalars) {value : Document}
    (hvalue : value.WellFormed) (h : Coherent formats node required value) :
    Mergeable (some node) value := ⟨hvalue, h.wellKeyed hnode⟩

/-! ### Merging keeps documents coherent -/

theorem ne_null_of_merged? {node : Option Node} {base overlay merged : Document}
    (hbase : base ≠ .null) (h : merged? options depth node base overlay = some merged) :
    merged ≠ .null := by
  by_cases hoverlay : overlay = .null
  · rw [hoverlay, merged?_null_right (le_maxDepth_of_merged? h)] at h
    exact Option.some.inj h ▸ hbase
  · rintro rfl
    have hform := (form_of_merged? h hbase hoverlay).2
    cases overlay <;> first | exact hoverlay rfl | cases hform

/-- What a dict asks of one entry, and that the entry can be merged. -/
structure Governed (formats : Formats) (child : Option Node) (other : Option Bool)
    (value : Document) : Prop where
  mergeable : Mergeable child value
  coherent : ∀ node ∈ child, Coherent formats node none value
  allowed : child = none → other = some true

theorem Coherent.of_laid_entries {a : Attributes} {keys : Option (List (String × Node))}
    {dynamicKeys : Option Node} {other : Option Bool} {base overlay entries : Entries Document}
    (hbase : Mergeable (some (.dict a keys dynamicKeys other)) (.object base))
    (hoverlay : Mergeable (some (.dict a keys dynamicKeys other)) (.object overlay))
    (h : Coherent formats (.dict a keys dynamicKeys other) required (.object base))
    (h' : Coherent formats (.dict a keys dynamicKeys other) required (.object overlay))
    (hmerged : ∀ key child x y merged, (key, y) ∈ overlay → Mergeable (some child) x →
      Mergeable (some child) y → Coherent formats child none x → Coherent formats child none y →
      Document.merged? options depth (some child) x y = some merged →
      Coherent formats child none merged) (hlaid : layAll (fun key =>
        Document.merged? options depth ((Node.dict a keys dynamicKeys other).child? key))
      (entrySlots base) (entrySlots overlay) = some (entrySlots entries)) :
    Coherent formats (.dict a keys dynamicKeys other) required (.object entries) := by
  obtain ⟨-, hbaseEntries⟩ := Mergeable.object_iff.1 hbase
  obtain ⟨hnodup, hoverlayEntries⟩ := Mergeable.object_iff.1 hoverlay
  cases h with
  | dict hgoverned hclosed habsent =>
    cases h' with
    | dict hgoverned' hclosed' _ =>
      have hslots : ∀ slot ∈ entrySlots entries, ∀ key, slot.1 = some key →
          Governed formats ((Node.dict a keys dynamicKeys other).child? key) other slot.2 := by
        refine forall_mem_layAll ?_ ?_ ?_ hlaid
        · intro slot hslot key hkey
          obtain ⟨entry, hentry, rfl⟩ := List.mem_map.1 hslot
          cases hkey
          exact ⟨hbaseEntries entry hentry, hgoverned entry hentry, hclosed entry hentry⟩
        · intro slot hslot key hkey
          obtain ⟨entry, hentry, rfl⟩ := List.mem_map.1 hslot
          cases hkey
          exact ⟨hoverlayEntries entry hentry, hgoverned' entry hentry, hclosed' entry hentry⟩
        · intro key x y merged hx hy hm _ hkey
          cases hkey
          have hx := hx key rfl
          have hmem : (key, y) ∈ overlay := mem_entrySlots.1 hy
          have hy : Mergeable ((Node.dict a keys dynamicKeys other).child? key) y :=
            hoverlayEntries _ hmem
          refine ⟨hx.mergeable.merged? hy hm, fun child hchild => ?_, hx.allowed⟩
          have hcoherent := hx.coherent child hchild
          have hmergeable := hx.mergeable
          rw [Option.mem_def.1 hchild] at hy hm hmergeable
          exact hmerged key child x y merged hmem hmergeable hy hcoherent
            (hgoverned' _ hmem child hchild) hm
      refine .dict (fun entry hentry => ?_) (fun entry hentry => ?_)
        fun key child hdeclared hunset => ?_
      · exact (hslots _ (mem_entrySlots.2 hentry) entry.1 rfl).coherent
      · exact (hslots _ (mem_entrySlots.2 hentry) entry.1 rfl).allowed
      · refine habsent key child hdeclared fun x hx => ?_
        by_cases hmem : key ∈ overlay.map Prod.fst
        · obtain ⟨⟨_, y⟩, hy, rfl⟩ := List.mem_map.1 hmem
          obtain ⟨merged, hm, hlookup⟩ := lookup_of_layAll hnodup hlaid hx hy
          by_cases hnull : x = .null
          · exact hnull
          · exact absurd (hunset merged hlookup) (ne_null_of_merged? hnull hm)
        · exact hunset x (lookup_of_layAll_of_not_mem hmem hlaid hx)

theorem Coherent.combine {a : Attributes} {items : Option Node} {c : ListConstraints}
    {base overlay : List Document} (hkey : c.primaryKey = none)
    (h : Coherent formats (.list a items c) required (.array base))
    (h' : Coherent formats (.list a items c) required (.array overlay)) (strategy : ListStrategy) :
    Coherent formats (.list a items c) required (.array (strategy.combine base overlay)) := by
  cases h with
  | list hminLength hnonNull heach =>
    cases h' with
    | list hminLength' hnonNull' heach' =>
      refine .list (fun min hmin => ?_) (fun hitems value hvalue => ?_)
        (fun item hitem value hvalue => ?_) ?_
      · have hbase := hminLength min hmin
        have hoverlay := hminLength' min hmin
        cases strategy <;> simp only [ListStrategy.combine, List.length_append] <;> omega
      · rcases mem_of_mem_combine hvalue with hvalue | hvalue
        · exact hnonNull hitems value hvalue
        · exact hnonNull' hitems value hvalue
      · rcases mem_of_mem_combine hvalue with hvalue | hvalue
        · exact heach item hitem value hvalue
        · exact heach' item hitem value hvalue
      · have hnone : identities none (strategy.combine base overlay) = [] :=
          List.filterMap_eq_nil_iff.2 fun _ _ => rfl
        rw [hkey, hnone]
        exact .nil

/-- What a list asks of one element, and that the element can be merged. -/
structure Listed (formats : Formats) (items : Option Node) (c : ListConstraints)
    (value : Document) : Prop where
  mergeable : Mergeable items value
  nonNull : items.isSome → value ≠ .null
  coherent : ∀ item ∈ items, Coherent formats item c.primaryKey value

theorem Coherent.of_laid_slots {a : Attributes} {items : Option Node} {c : ListConstraints}
    {key : String} (hkey : c.primaryKey = some key) {base overlay : List Document}
    {result : List Slot} (hbase : Mergeable (some (.list a items c)) (.array base))
    (hoverlay : Mergeable (some (.list a items c)) (.array overlay))
    (h : Coherent formats (.list a items c) required (.array base))
    (h' : Coherent formats (.list a items c) required (.array overlay))
    (hmerged : ∀ item x y merged, y ∈ overlay → Mergeable (some item) x → Mergeable (some item) y →
      Coherent formats item c.primaryKey x → Coherent formats item c.primaryKey y →
      Document.merged? options depth (some item) x y = some merged →
      Coherent formats item c.primaryKey merged)
      (hlaid : layAll (fun _ => Document.merged? options depth items) (slots key base)
        (slots key overlay) =
      some result) :
    Coherent formats (.list a items c) required (.array (result.map Prod.snd)) := by
  have hnode : (some (Node.list a items c)).bind Node.primaryKey? = some key := hkey
  obtain ⟨hdistinct, hbaseElements⟩ := (Mergeable.keyed_iff hnode).1 hbase
  obtain ⟨hdistinct', hoverlayElements⟩ := (Mergeable.keyed_iff hnode).1 hoverlay
  obtain ⟨htagged, hnodup⟩ := layAll_slots hdistinct hdistinct'
    (fun element helement => (hoverlayElements element helement).wellFormed) hlaid
  have hkeys : DistinctKeys key (result.map Prod.snd) := distinctKeys_of_tagged htagged hnodup
  cases h with
  | list hminLength hnonNull heach =>
    cases h' with
    | list _ hnonNull' heach' =>
      have hslots : ∀ slot ∈ result, Listed formats items c slot.2 := by
        refine forall_mem_layAll ?_ ?_ ?_ hlaid
        · intro slot hslot
          have hx := mem_of_mem_slots hslot
          exact ⟨hbaseElements _ hx, fun hitems => hnonNull hitems _ hx, fun item hitem =>
            heach item hitem _ hx⟩
        · intro slot hslot
          have hy := mem_of_mem_slots hslot
          exact ⟨hoverlayElements _ hy, fun hitems => hnonNull' hitems _ hy, fun item hitem =>
            heach' item hitem _ hy⟩
        · intro identity x y merged hx hslot hm
          have hmem : y ∈ overlay := mem_of_mem_slots hslot
          have hmergeable : Mergeable items y := hoverlayElements y hmem
          refine ⟨hx.mergeable.merged? hmergeable hm, fun hitems => ?_, fun item hitem => ?_⟩
          · exact ne_null_of_merged? (hx.nonNull hitems) hm
          · cases hitem
            exact hmerged item x y merged hmem hx.mergeable hmergeable (hx.coherent item rfl)
              (heach' item rfl y hmem) hm
      have helements : ∀ value ∈ result.map Prod.snd, Listed formats items c value :=
        List.forall_mem_map.2 hslots
      refine .list (fun min hmin => ?_) (fun hitems value hvalue => ?_)
        (fun item hitem value hvalue => ?_) ?_
      · have hlength := length_le_layAll hlaid
        have hbaseLength := hminLength min hmin
        rw [slots, List.length_map] at hlength
        rw [List.length_map]
        omega
      · exact (helements value hvalue).nonNull hitems
      · exact (helements value hvalue).coherent item hitem
      · rw [hkey]
        exact hkeys.distinct

/-- Merging two coherent documents gives a coherent document. -/
theorem Coherent.merged? {base overlay merged : Document} (hbase : Mergeable (some node) base)
    (hoverlay : Mergeable (some node) overlay) (h : Coherent formats node required base)
    (h' : Coherent formats node required overlay)
    (hmerged : Document.merged? options depth (some node) base overlay = some merged) :
    Coherent formats node required merged := by
  induction overlay generalizing node required base merged depth with
  | object overlay ih =>
    cases merges_of_merged? hmerged with
    | overlay => exact h'
    | objects hlaid =>
      cases node with
      | dict a keys dynamicKeys other =>
        refine Coherent.of_laid_entries hbase hoverlay h h' ?_ hlaid
        intro key child x y merged hmem hx hy hcoherent hcoherent' hm
        exact ih (key, y) hmem hx hy hcoherent hcoherent' hm
      | _ => cases h
  | array overlay ih =>
    cases node with
    | list a items c =>
      cases merges_of_merged? hmerged with
      | overlay => exact h'
      | unkeyed hkey => exact h.combine hkey h' options.strategy
      | keyed hkey hlaid =>
        refine Coherent.of_laid_slots hkey hbase hoverlay h h' ?_ hlaid
        intro item x y merged hmem hx hy hcoherent hcoherent' hm
        exact ih y hmem hx hy hcoherent hcoherent' hm
    | _ => cases h'
  | null =>
    cases merges_of_merged? hmerged with
    | base => exact h
    | overlay => exact h'
  | bool | int | float | string =>
    cases merges_of_merged? hmerged with
    | overlay => exact h'

end DataSchema
