import DataSchema.Node.Merge
import DataSchema.Node.Written
import DataSchema.Proofs.Document.Entries

/-!
# Nodes that declare no key twice

The static keys of a dict are a map: reading a node from a well-formed document gives pairwise
different keys at every dict, and merging nodes keeps them so.
-/

namespace DataSchema

/-- No dict declares a key twice, at any depth. -/
inductive Node.WellFormed : Node → Prop
  | str {a c} : WellFormed (.str a c)
  | int {a c} : WellFormed (.int a c)
  | bool {a c} : WellFormed (.bool a c)
  | dict {a keys dynamicKeys other} :
      ((keys.getD []).map Prod.fst).Nodup → (∀ entry ∈ keys.getD [], WellFormed entry.2) →
      (∀ node ∈ dynamicKeys, WellFormed node) → WellFormed (.dict a keys dynamicKeys other)
  | list {a items c} : (∀ item ∈ items, WellFormed item) → WellFormed (.list a items c)

namespace Node

/-! ### The node that governs a key -/

section

variable {a : Attributes} {keys : Option (List (String × Node))} {dynamicKeys : Option Node}
  {other : Option Bool} {key : String} {child : Node}

theorem child?_eq_some (h : (dict a keys dynamicKeys other).child? key = some child) :
    (key, child) ∈ keys.getD [] ∨ key ∉ (keys.getD []).map Prod.fst ∧ dynamicKeys = some child := by
  rw [child?, Option.or_eq_some_iff] at h
  cases keys with
  | none => exact .inr ⟨by simp, by simpa using h⟩
  | some keys => exact h.imp Entries.mem_of_lookup (And.imp_left Entries.lookup_eq_none_iff.1)

theorem child?_of_mem (hnodup : ((keys.getD []).map Prod.fst).Nodup)
    (h : (key, child) ∈ keys.getD []) :
    (dict a keys dynamicKeys other).child? key = some child := by
  cases keys with
  | none => simp at h
  | some keys =>
    have hlookup : keys.lookup key = some child := Entries.lookup_of_mem hnodup h
    rw [child?, Option.bind_some, hlookup]
    rfl

theorem child?_of_not_mem (h : key ∉ (keys.getD []).map Prod.fst) :
    (dict a keys dynamicKeys other).child? key = dynamicKeys := by
  cases keys with
  | none => rfl
  | some keys =>
    have hlookup : keys.lookup key = none := Entries.lookup_eq_none_iff.2 h
    rw [child?, Option.bind_some, hlookup]
    rfl

theorem WellFormed.child? {node : Node} (h : node.WellFormed)
    (hchild : node.child? key = some child) : child.WellFormed := by
  cases h with
  | dict _ hkeys hdynamic =>
    rcases child?_eq_some hchild with hmem | ⟨-, hmem⟩
    · exact hkeys _ hmem
    · exact hdynamic child hmem
  | _ => cases hchild

end

/-! ### Reading -/

theorem nodeField?_eq_some {name : String} {entries : Entries Document} {node : Node}
    (h : nodeField? name entries = some (some node)) :
    ∃ value, (name, value) ∈ entries ∧ ofDocument? value = some node := by
  induction entries with
  | nil => simp [nodeField?] at h
  | cons entry rest ih =>
    obtain ⟨key, value⟩ := entry
    rw [nodeField?] at h
    split at h
    · rename_i hname
      split at h
      · simp at h
      · obtain ⟨found, hfound, heq⟩ := Option.map_eq_some_iff.1 h
        cases heq
        exact ⟨value, by simp [beq_iff_eq.1 hname], hfound⟩
    · obtain ⟨found, hmem, hfound⟩ := ih h
      exact ⟨found, List.mem_cons_of_mem _ hmem, hfound⟩

theorem keysField?_eq_some {entries : Entries Document} {keys : List (String × Node)}
    (h : keysField? entries = some (some keys)) :
    ∃ inner, ("keys", .object inner) ∈ entries ∧ keyNodes? inner = some keys := by
  induction entries with
  | nil => simp [keysField?] at h
  | cons entry rest ih =>
    obtain ⟨key, value⟩ := entry
    rw [keysField?.eq_def] at h
    dsimp only at h
    split at h
    · rename_i hname
      split at h
      · simp at h
      · rename_i inner
        obtain ⟨found, hfound, heq⟩ := Option.map_eq_some_iff.1 h
        cases heq
        exact ⟨inner, by simp [beq_iff_eq.1 hname], hfound⟩
      · simp at h
    · obtain ⟨inner, hmem, hfound⟩ := ih h
      exact ⟨inner, List.mem_cons_of_mem _ hmem, hfound⟩

theorem keyNodes?_eq_some {entries : Entries Document} {keys : List (String × Node)}
    (h : keyNodes? entries = some keys) :
    keys.map Prod.fst = entries.map Prod.fst ∧ ∀ declared ∈ keys, ∃ entry ∈ entries,
      ofDocument? entry.2 = some declared.2 := by
  induction entries generalizing keys with
  | nil =>
    rw [keyNodes?, Option.some.injEq] at h
    subst h
    simp
  | cons entry rest ih =>
    obtain ⟨key, value⟩ := entry
    rw [keyNodes?] at h
    obtain ⟨node, hnode, h⟩ := Option.bind_eq_some_iff.1 h
    obtain ⟨nodes, hnodes, h⟩ := Option.bind_eq_some_iff.1 h
    cases h
    obtain ⟨hkeys, hread⟩ := ih hnodes
    refine ⟨by rw [List.map_cons, List.map_cons, hkeys], fun declared hdeclared => ?_⟩
    rcases List.mem_cons.1 hdeclared with rfl | hdeclared
    · exact ⟨(key, value), List.mem_cons_self, hnode⟩
    · obtain ⟨entry, hmem, hentry⟩ := hread declared hdeclared
      exact ⟨entry, List.mem_cons_of_mem _ hmem, hentry⟩

theorem wellFormed_of_fields {entries : Entries Document}
    {node : Node} (h : ofDocument? (.object entries) = some node)
    (hfield : ∀ entry ∈ entries, ∀ inner, ofDocument? entry.2 = some inner → inner.WellFormed)
    (hkeys : ∀ inner, ("keys", .object inner) ∈ entries → (inner.map Prod.fst).Nodup ∧
      ∀ entry ∈ inner, ∀ node, ofDocument? entry.2 = some node → node.WellFormed) :
      node.WellFormed := by
  have hoptional : ∀ name inner, nodeField? name entries = some inner →
      ∀ node ∈ inner, node.WellFormed := by
    intro name inner hinner node hnode
    cases hnode
    obtain ⟨value, hmem, hvalue⟩ := nodeField?_eq_some hinner
    exact hfield _ hmem node hvalue
  rw [ofDocument?] at h
  obtain ⟨kind, -, h⟩ := Option.bind_eq_some_iff.1 h
  obtain ⟨attributes, -, h⟩ := Option.bind_eq_some_iff.1 h
  cases kind with
  | str =>
    obtain ⟨c, -, h⟩ := Option.bind_eq_some_iff.1 h
    cases h
    exact .str
  | int =>
    obtain ⟨c, -, h⟩ := Option.bind_eq_some_iff.1 h
    cases h
    exact .int
  | bool =>
    obtain ⟨c, -, h⟩ := Option.bind_eq_some_iff.1 h
    cases h
    exact .bool
  | dict =>
    obtain ⟨keys, hread, h⟩ := Option.bind_eq_some_iff.1 h
    obtain ⟨dynamicKeys, hdynamic, h⟩ := Option.bind_eq_some_iff.1 h
    obtain ⟨other, -, h⟩ := Option.bind_eq_some_iff.1 h
    cases h
    cases keys with
    | none => exact .dict (by simp) (by simp) (hoptional _ _ hdynamic)
    | some keys =>
      obtain ⟨inner, hmem, hinner⟩ := keysField?_eq_some hread
      obtain ⟨hsame, hnodes⟩ := keyNodes?_eq_some hinner
      obtain ⟨hnodup, hgood⟩ := hkeys inner hmem
      refine .dict (by rw [Option.getD_some, hsame]; exact hnodup) (fun declared hdeclared => ?_)
        (hoptional _ _ hdynamic)
      obtain ⟨entry, hentry, hnode⟩ := hnodes declared hdeclared
      exact hgood entry hentry _ hnode
  | list =>
    obtain ⟨items, hitems, h⟩ := Option.bind_eq_some_iff.1 h
    obtain ⟨c, -, h⟩ := Option.bind_eq_some_iff.1 h
    cases h
    exact .list (hoptional _ _ hitems)

/-- Reading gives a well-formed node, from the document and from each of its entries; the entries
are needed for `keys`, which is no node. -/
theorem wellFormed_of_ofDocument?_below {document : Document} (hdocument : document.WellFormed) :
    (∀ node, ofDocument? document = some node → node.WellFormed) ∧
      ∀ entries, document = .object entries → ∀ entry ∈ entries, ∀ node, ofDocument? entry.2 =
        some node → node.WellFormed := by
  induction document with
  | object entries ih =>
    obtain ⟨-, hvalues⟩ := Document.wellFormed_object.1 hdocument
    have hentries : ∀ entry ∈ entries, ∀ node, ofDocument? entry.2 = some node → node.WellFormed :=
      fun entry hentry =>
      (ih entry hentry (hvalues entry hentry)).1
    refine ⟨fun node hnode => wellFormed_of_fields hnode hentries fun inner hinner => ⟨?_, ?_⟩, ?_⟩
    · exact (Document.wellFormed_object.1 (hvalues _ hinner)).1
    · exact (ih _ hinner (hvalues _ hinner)).2 inner rfl
    · rintro _ ⟨⟩
      exact hentries
  | null | bool | int | float | string | array => simp [ofDocument?]

theorem wellFormed_of_ofDocument? {document : Document} {node : Node}
    (hdocument : document.WellFormed) (h : ofDocument? document = some node) : node.WellFormed :=
  (wellFormed_of_ofDocument?_below hdocument).1 node h

/-! ### Merging -/

theorem mergeOptional_eq_ok {order : ListOrder} {path : Path} {base overlay merged : Option Node}
    (h : mergeOptional order path base overlay = .ok merged) :
    merged = base ∨ merged = overlay ∨ ∃ b o m, base = some b ∧ overlay = some o ∧ merged = some m ∧
      merge order path b o = .ok m := by
  rw [mergeOptional.eq_def] at h
  cases overlay with
  | none =>
    cases h
    exact .inl rfl
  | some o =>
    cases base with
    | none =>
      cases h
      exact .inr (.inl rfl)
    | some b =>
      obtain ⟨m, hm, h⟩ := bind_eq_ok.1 h
      cases h
      exact .inr (.inr ⟨b, o, m, rfl, rfl, rfl, hm⟩)

theorem mergeKeys_wellFormed {order : ListOrder} {path : Path}
    {base overlay merged : List (String × Node)}
    (h : mergeKeys order path base overlay = .ok merged) (hnodup : (base.map Prod.fst).Nodup)
    (hbase : ∀ entry ∈ base, entry.2.WellFormed) (hoverlay : ∀ entry ∈ overlay, entry.2.WellFormed)
    (hmerge : ∀ entry ∈ overlay, ∀ path b m, b.WellFormed → merge order path b entry.2 = .ok m →
      m.WellFormed) :
    (merged.map Prod.fst).Nodup ∧ ∀ entry ∈ merged, entry.2.WellFormed := by
  induction overlay generalizing base with
  | nil =>
    rw [mergeKeys, Except.ok.injEq] at h
    exact h ▸ ⟨hnodup, hbase⟩
  | cons entry rest ih =>
    obtain ⟨key, node⟩ := entry
    have hinsert : ∀ inserted : Node, inserted.WellFormed →
        ∀ entry ∈ Entries.insert base key inserted, entry.2.WellFormed := by
      intro inserted hinserted entry hentry
      rcases Entries.mem_insert hentry with rfl | hentry
      · exact hinserted
      · exact hbase entry hentry
    rw [List.forall_mem_cons] at hoverlay hmerge
    rw [mergeKeys] at h
    split at h
    · rename_i existing hlookup
      obtain ⟨m, hm, h⟩ := bind_eq_ok.1 h
      have hmerged := hmerge.1 _ _ _ (hbase _ (Entries.mem_of_lookup hlookup)) hm
      exact ih h (Entries.nodup_insert hnodup) (hinsert m hmerged) hoverlay.2 hmerge.2
    · exact ih h (Entries.nodup_insert hnodup) (hinsert node hoverlay.1) hoverlay.2 hmerge.2

theorem merge_wellFormed {order : ListOrder} {path : Path} {base overlay merged : Node}
    (hbase : base.WellFormed) (hoverlay : overlay.WellFormed)
    (h : base.merge order path overlay = .ok merged) : merged.WellFormed := by
  have hoptional : ∀ {path : Path} {base overlay merged : Option Node},
      (∀ node ∈ base, node.WellFormed) →
      (∀ node ∈ overlay, node.WellFormed) →
      (∀ o ∈ overlay, ∀ path b m, b.WellFormed → merge order path b o = .ok m → m.WellFormed) →
      mergeOptional order path base overlay = .ok merged → ∀ node ∈ merged, node.WellFormed := by
    intro path base overlay merged hbase hoverlay hmerge h
    rcases mergeOptional_eq_ok h with rfl | rfl | ⟨b, o, m, rfl, rfl, rfl, hm⟩
    · exact hbase
    · exact hoverlay
    · intro node hnode
      cases hnode
      exact hmerge o rfl _ b m (hbase b rfl) hm
  induction overlay generalizing base merged path with
  | str | int | bool =>
    rw [merge.eq_def] at h
    cases base <;> simp only [reduceCtorEq, Except.ok.injEq] at h
    subst h
    constructor
  | dict a keys dynamicKeys other ihkeys ihdynamic =>
    rw [merge.eq_def] at h
    cases hbase with
    | dict hnodup hkeys hdynamic =>
      obtain ⟨mergedDynamic, hmergedDynamic, h⟩ := bind_eq_ok.1 h
      obtain ⟨mergedKeys, hmergedKeys, h⟩ := bind_eq_ok.1 h
      cases h
      cases hoverlay with
      | dict _ hkeys' hdynamic' =>
        have hbelow : ∀ node ∈ mergedDynamic, node.WellFormed :=
          hoptional hdynamic hdynamic' (fun o ho path b m hb hm =>
            ihdynamic o ho hb (hdynamic' o ho) hm) hmergedDynamic
        rw [mergeOptionalKeys.eq_def] at hmergedKeys
        cases keys with
        | none =>
          cases hmergedKeys
          exact .dict hnodup hkeys hbelow
        | some keys =>
          obtain ⟨result, hresult, h⟩ := bind_eq_ok.1 hmergedKeys
          cases h
          have hmerged :=
            mergeKeys_wellFormed hresult hnodup hkeys hkeys' fun entry hentry path b m hb hm =>
            ihkeys entry hentry hb (hkeys' entry hentry) hm
          exact .dict hmerged.1 hmerged.2 hbelow
    | _ => cases h
  | list a items c ih =>
    rw [merge.eq_def] at h
    cases hbase with
    | list hitems =>
      obtain ⟨mergedItems, hmergedItems, h⟩ := bind_eq_ok.1 h
      cases h
      cases hoverlay with
      | list hitems' =>
        exact .list (hoptional hitems hitems' (fun o ho path b m hb hm =>
          ih o ho hb (hitems' o ho) hm) hmergedItems)
    | _ => cases h

theorem WellFormed.withAttributes {node : Node} (h : node.WellFormed) (a : Attributes) :
    (node.withAttributes a).WellFormed := by
  cases h with
  | dict hnodup hkeys hdynamic => exact .dict hnodup hkeys hdynamic
  | list hitems => exact .list hitems
  | str => exact .str
  | int => exact .int
  | bool => exact .bool

end Node

end DataSchema
