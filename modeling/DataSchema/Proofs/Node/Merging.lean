import DataSchema.Proofs.Node.Steps

/-!
# What merged nodes consist of

`merged?` is the result of merging two nodes when errors are not told apart; the path of a merge
only shows in its errors. Merging works at each step on its own: the merged node is, at every step,
what the two nodes are there, merged. The static keys of the overlay that the base does not have go
to the end, in order.
-/

namespace DataSchema.Node

variable {order : ListOrder} {path : Path}

/-- The merged node, if the kinds agree wherever the two nodes meet. -/
def merged? (order : ListOrder) (base overlay : Node) : Option Node :=
  (base.merge order [] overlay).toOption

/-- The overlay laid over a base that may be missing. -/
def mergedOver? (order : ListOrder) : Option Node → Node → Option Node
  | none, overlay => some overlay
  | some base, overlay => base.merged? order overlay

/-- What two nodes at the same position merge to; a node that is missing changes nothing. -/
def mergedOptional? (order : ListOrder) (base : Option Node) : Option Node → Option (Option Node)
  | none => some base
  | some overlay => (mergedOver? order base overlay).map some

def mergedKeys? (order : ListOrder) (base : List (String × Node)) :
    List (String × Node) → Option (List (String × Node))
  | [] => some base
  | (key, overlay) :: rest =>
    (mergedOver? order (base.lookup key) overlay).bind fun merged =>
      mergedKeys? order (Entries.insert base key merged) rest

theorem merge_of_kind_ne {base overlay : Node} (h : base.kind ≠ overlay.kind) :
    base.merge order path overlay = .error ⟨path, base.kind, overlay.kind⟩ := by
  cases overlay <;> rw [merge.eq_def] <;> cases base <;> first | rfl | exact absurd rfl h

/-! ### Paths do not matter -/

theorem toOption_mergeOptional {base overlay : Option Node}
    (h : ∀ b : Node, ∀ o ∈ overlay, (b.merge order path o).toOption = b.merged? order o) :
    (mergeOptional order path base overlay).toOption = mergedOptional? order base overlay := by
  rw [mergeOptional.eq_def]
  cases overlay with
  | none => rfl
  | some o =>
    cases base with
    | none => rfl
    | some b =>
      dsimp only
      rw [toOption_bind, h b o rfl, mergedOptional?, mergedOver?]
      cases b.merged? order o <;> rfl

theorem toOption_mergeKeys {base overlay : List (String × Node)}
    (h : ∀ (b : Node) (path : Path), ∀ entry ∈ overlay,
      (b.merge order path entry.2).toOption = b.merged? order entry.2) :
    (mergeKeys order path base overlay).toOption = mergedKeys? order base overlay := by
  induction overlay generalizing base with
  | nil => rw [mergeKeys]; rfl
  | cons entry rest ih =>
    obtain ⟨key, overlay⟩ := entry
    have hrest : ∀ base, (mergeKeys order path base rest).toOption =
        mergedKeys? order base rest := by
      intro base
      exact ih fun b path entry hentry => h b path entry (List.mem_cons_of_mem _ hentry)
    rw [mergeKeys, mergedKeys?]
    cases base.lookup key with
    | none => exact hrest _
    | some existing =>
      dsimp only
      rw [toOption_bind, h existing _ _ List.mem_cons_self, mergedOver?]
      simp only [hrest]

/-- Nodes of different kinds merge nowhere, so only nodes of one kind have to be compared. -/
theorem toOption_merge_of_kind {base overlay : Node}
    (h : base.kind = overlay.kind → (base.merge order path overlay).toOption =
      base.merged? order overlay) :
    (base.merge order path overlay).toOption = base.merged? order overlay := by
  by_cases hkind : base.kind = overlay.kind
  · exact h hkind
  · rw [merged?, merge_of_kind_ne hkind, merge_of_kind_ne hkind]
    rfl

theorem toOption_merge (path : Path) (base overlay : Node) :
    (base.merge order path overlay).toOption = base.merged? order overlay := by
  induction overlay generalizing base path with
  | str | int | bool =>
    rw [merged?, merge.eq_def, merge.eq_def]
    cases base <;> rfl
  | dict a keys dynamicKeys other ihkeys ihdynamic =>
    refine toOption_merge_of_kind fun hkind => ?_
    cases base with
    | dict b baseKeys baseDynamicKeys baseOther =>
      have hdynamic : ∀ path, (mergeOptional order path baseDynamicKeys dynamicKeys).toOption =
          mergedOptional? order baseDynamicKeys dynamicKeys := by
        intro path
        exact toOption_mergeOptional fun b o ho => ihdynamic o ho path b
      have hkeys : ∀ path base, (mergeKeys order path base (keys.getD [])).toOption =
          mergedKeys? order base (keys.getD []) := by
        intro path base
        exact toOption_mergeKeys fun b path entry hentry => ihkeys entry hentry path b
      rw [merged?, merge, merge]
      cases keys with
      | none => simp only [mergeOptionalKeys, toOption_bind, hdynamic]
      | some keys =>
        rw [Option.getD_some] at hkeys
        simp only [mergeOptionalKeys, toOption_bind, hdynamic, hkeys]
    | _ => cases hkind
  | list a items c ih =>
    refine toOption_merge_of_kind fun hkind => ?_
    cases base with
    | list b baseItems d =>
      have hitems : ∀ path, (mergeOptional order path baseItems items).toOption =
          mergedOptional? order baseItems items := by
        intro path
        exact toOption_mergeOptional fun b o ho => ih o ho path b
      rw [merged?, merge, merge]
      simp only [toOption_bind, hitems]
    | _ => cases hkind

theorem merge_eq_ok_iff {base overlay merged : Node} :
    base.merge order path overlay = .ok merged ↔ base.merged? order overlay = some merged := by
  rw [← toOption_merge path, toOption_eq_some]

/-! ### One equation for each kind -/

/-- The keys of two dicts, merged; an overlay that declares none leaves those of the base. -/
def mergedOptionalKeys? (order : ListOrder) (base : Option (List (String × Node))) :
    Option (List (String × Node)) → Option (Option (List (String × Node)))
  | none => some base
  | some overlay => (mergedKeys? order (base.getD []) overlay).map some

theorem merged?_of_kind_ne {base overlay : Node} (h : base.kind ≠ overlay.kind) :
    base.merged? order overlay = none := by
  rw [merged?, merge_of_kind_ne h]
  rfl

theorem merged?_str (a b : Attributes) (c d : TextConstraints) :
    (str b d).merged? order (str a c) = some (str (b.merge order a) (d.merge order c)) := by
  rw [merged?, merge]
  rfl

theorem merged?_int (a b : Attributes) (c d : IntConstraints) :
    (int b d).merged? order (int a c) = some (int (b.merge order a) (d.merge order c)) := by
  rw [merged?, merge]
  rfl

theorem merged?_bool (a b : Attributes) (c d : BoolConstraints) :
    (bool b d).merged? order (bool a c) = some (bool (b.merge order a) (d.merge order c)) := by
  rw [merged?, merge]
  rfl

theorem merged?_dict (a b : Attributes) (keys baseKeys : Option (List (String × Node)))
    (dynamicKeys baseDynamicKeys : Option Node) (other baseOther : Option Bool) :
    (dict b baseKeys baseDynamicKeys baseOther).merged? order (dict a keys dynamicKeys other) =
      (mergedOptional? order baseDynamicKeys dynamicKeys).bind fun mergedDynamicKeys =>
        (mergedOptionalKeys? order baseKeys keys).map fun mergedKeys =>
          dict (b.merge order a) mergedKeys mergedDynamicKeys (other.or baseOther) := by
  have hdynamic := @toOption_mergeOptional order [.key "dynamic_keys"] baseDynamicKeys dynamicKeys
    fun _ _ _ => toOption_merge _ _ _
  rw [merged?, merge, toOption_bind]
  change (mergeOptional order [.key "dynamic_keys"] _ _).toOption.bind _ = _
  rw [hdynamic]
  congr 1
  funext mergedDynamicKeys
  rw [toOption_bind, mergeOptionalKeys.eq_def]
  cases keys with
  | none => rfl
  | some keys =>
    dsimp only
    rw [toOption_bind, toOption_mergeKeys fun _ _ _ _ => toOption_merge _ _ _, mergedOptionalKeys?]
    cases mergedKeys? order (baseKeys.getD []) keys <;> rfl

theorem merged?_list (a b : Attributes) (items baseItems : Option Node) (c d : ListConstraints) :
    (list b baseItems d).merged? order (list a items c) =
      (mergedOptional? order baseItems items).map fun mergedItems =>
        list (b.merge order a) mergedItems (d.merge c) := by
  have hitems := @toOption_mergeOptional order [.key "items"] baseItems items
    fun _ _ _ => toOption_merge _ _ _
  rw [merged?, merge, toOption_bind]
  change (mergeOptional order [.key "items"] _ _).toOption.bind _ = _
  rw [hitems]
  cases mergedOptional? order baseItems items <;> rfl

/-- The forms that two nodes and the merged node have. -/
inductive MergesTo (order : ListOrder) : Node → Node → Node → Prop
  | str {a b c d} : MergesTo order (.str b d) (.str a c) (.str (b.merge order a) (d.merge order c))
  | int {a b c d} : MergesTo order (.int b d) (.int a c) (.int (b.merge order a) (d.merge order c))
  | bool {a b c d} :
      MergesTo order (.bool b d) (.bool a c) (.bool (b.merge order a) (d.merge order c))
  | dict {a b keys baseKeys mergedKeys dynamicKeys baseDynamicKeys mergedDynamicKeys
        other baseOther}
      (hdynamic : mergedOptional? order baseDynamicKeys dynamicKeys = some mergedDynamicKeys)
      (hkeys : mergedOptionalKeys? order baseKeys keys = some mergedKeys) :
      MergesTo order (.dict b baseKeys baseDynamicKeys baseOther) (.dict a keys dynamicKeys other)
        (.dict (b.merge order a) mergedKeys mergedDynamicKeys (other.or baseOther))
  | list {a b items baseItems mergedItems c d}
      (hitems : mergedOptional? order baseItems items = some mergedItems) :
      MergesTo order (.list b baseItems d) (.list a items c)
        (.list (b.merge order a) mergedItems (d.merge c))

theorem kind_of_merged? {base overlay merged : Node}
    (h : base.merged? order overlay = some merged) :
    base.kind = overlay.kind := by
  by_cases hkind : base.kind = overlay.kind
  · exact hkind
  · rw [merged?_of_kind_ne hkind] at h
    cases h

theorem mergesTo_of_merged? {base overlay merged : Node}
    (h : base.merged? order overlay = some merged) :
    MergesTo order base overlay merged := by
  have hkind := kind_of_merged? h
  cases overlay with
  | str | int | bool =>
    cases base <;> cases hkind
    simp only [merged?_str, merged?_int, merged?_bool, Option.some.injEq] at h
    subst h
    constructor
  | dict a keys dynamicKeys other =>
    cases base with
    | dict b baseKeys baseDynamicKeys baseOther =>
      rw [merged?_dict] at h
      obtain ⟨mergedDynamicKeys, hdynamic, h⟩ := Option.bind_eq_some_iff.1 h
      obtain ⟨mergedKeys, hkeys, rfl⟩ := Option.map_eq_some_iff.1 h
      exact .dict hdynamic hkeys
    | _ => cases hkind
  | list a items c =>
    cases base with
    | list b baseItems d =>
      rw [merged?_list] at h
      obtain ⟨mergedItems, hitems, rfl⟩ := Option.map_eq_some_iff.1 h
      exact .list hitems
    | _ => cases hkind

theorem WellFormed.merged? {base overlay merged : Node} (hbase : base.WellFormed)
    (hoverlay : overlay.WellFormed) (h : base.merged? order overlay = some merged) :
    merged.WellFormed := by
  have hmerge : base.merge order [] overlay = .ok merged := merge_eq_ok_iff.2 h
  exact merge_wellFormed hbase hoverlay hmerge

theorem attributes_of_merged? {base overlay merged : Node}
    (h : base.merged? order overlay = some merged) :
    merged.attributes = base.attributes.merge order overlay.attributes := by
  cases mergesTo_of_merged? h <;> rfl

theorem merged?_withAttributes {base overlay merged : Node}
    (h : base.merged? order overlay = some merged) (b : Attributes) :
    (base.withAttributes b).merged? order overlay =
      some (merged.withAttributes (b.merge order overlay.attributes)) := by
  cases mergesTo_of_merged? h with
  | str => exact merged?_str ..
  | int => exact merged?_int ..
  | bool => exact merged?_bool ..
  | dict hdynamic hkeys =>
    refine (merged?_dict ..).trans ?_
    rw [hdynamic, Option.bind_some, hkeys]
    rfl
  | list hitems =>
    refine (merged?_list ..).trans ?_
    rw [hitems]
    rfl

/-- An overlay without reference goes as well over the base without its reference. -/
theorem merged?_ownFields {base overlay merged : Node}
    (hoverlay : overlay.attributes.reference = none)
    (h : base.merged? order overlay = some merged) :
    base.ownFields.merged? order overlay = some merged.ownFields := by
  have hattributes : { base.attributes with reference := none }.merge order overlay.attributes =
      { merged.attributes with reference := none } := by
    rw [attributes_of_merged? h, Attributes.merge, hoverlay]
    rfl
  rw [ownFields, merged?_withAttributes h, hattributes, ownFields]

/-! ### One position after the other -/

section

variable {base overlay merged : List (String × Node)}

theorem names_of_mergedKeys? (hnodup : (overlay.map Prod.fst).Nodup)
    (h : mergedKeys? order base overlay = some merged) :
    merged.map Prod.fst =
      base.map Prod.fst ++ (overlay.map Prod.fst).filter (· ∉ base.map Prod.fst) := by
  induction overlay generalizing base with
  | nil =>
    cases h
    simp
  | cons entry rest ih =>
    obtain ⟨key, overlay⟩ := entry
    rw [List.map_cons, List.nodup_cons] at hnodup
    obtain ⟨inserted, -, hrest⟩ := Option.bind_eq_some_iff.1 h
    rw [ih hnodup.2 hrest, List.map_cons]
    by_cases hmem : key ∈ base.map Prod.fst
    · rw [Entries.map_fst_insert_of_mem hmem, List.filter_cons_of_neg (by simpa using hmem)]
    · have hfilter : (rest.map Prod.fst).filter (· ∉ base.map Prod.fst ++ [key]) =
          (rest.map Prod.fst).filter (· ∉ base.map Prod.fst) := by
        apply List.filter_congr
        intro name hname
        have hne : name ≠ key := fun heq => hnodup.1 (heq ▸ hname)
        simp only [List.mem_append, List.mem_singleton, hne, or_false]
      rw [Entries.insert_of_not_mem hmem, List.map_append,
        List.filter_cons_of_pos (by simpa using hmem)]
      change _ ++ (rest.map Prod.fst).filter (· ∉ base.map Prod.fst ++ [key]) = _
      rw [hfilter, List.append_assoc]
      rfl

theorem lookup_of_mergedKeys? (hnodup : (overlay.map Prod.fst).Nodup)
    (h : mergedKeys? order base overlay = some merged) (key : String) :
    mergedOptional? order (base.lookup key) (overlay.lookup key) = some (merged.lookup key) := by
  induction overlay generalizing base with
  | nil =>
    cases h
    rfl
  | cons entry rest ih =>
    obtain ⟨name, overlay⟩ := entry
    rw [List.map_cons, List.nodup_cons] at hnodup
    obtain ⟨inserted, hinserted, hrest⟩ := Option.bind_eq_some_iff.1 h
    have hlater := ih hnodup.2 hrest
    by_cases heq : key = name
    · subst heq
      rw [Entries.lookup_eq_none_iff.2 hnodup.1, Entries.lookup_insert_self] at hlater
      rw [List.lookup_cons_self, mergedOptional?, hinserted]
      exact hlater
    · rw [Entries.lookup_insert_of_ne heq] at hlater
      rw [List.lookup_cons, beq_false_of_ne heq]
      exact hlater

theorem exists_mergedKeys? (hnodup : (overlay.map Prod.fst).Nodup)
    (h : ∀ entry ∈ overlay, ∃ node, mergedOver? order (base.lookup entry.1) entry.2 = some node) :
    ∃ merged, mergedKeys? order base overlay = some merged := by
  induction overlay generalizing base with
  | nil => exact ⟨base, rfl⟩
  | cons entry rest ih =>
    rw [List.map_cons, List.nodup_cons] at hnodup
    rw [List.forall_mem_cons] at h
    obtain ⟨inserted, hinserted⟩ := h.1
    rw [mergedKeys?, hinserted, Option.bind_some]
    apply ih hnodup.2
    intro later hlater
    have hne : later.1 ≠ entry.1 := fun heq => hnodup.1 (heq ▸ List.mem_map_of_mem hlater)
    rw [Entries.lookup_insert_of_ne hne]
    exact h.2 later hlater

end

/-- The names of merged keys. -/
def mergedNames : Option (List String) → Option (List String) → Option (List String)
  | base, none => base
  | base, some overlay => some (base.getD [] ++ overlay.filter (· ∉ base.getD []))

variable {base overlay merged : Node}

/-- At every step, the merged node is what the two nodes are there, merged. -/
theorem below?_of_merged? (hoverlay : overlay.WellFormed)
    (h : base.merged? order overlay = some merged) (step : Step) :
    mergedOptional? order (base.below? step) (overlay.below? step) = some (merged.below? step) := by
  cases mergesTo_of_merged? h with
  | str | int | bool => cases step <;> rfl
  | @dict _ _ keys _ _ _ _ _ _ _ hdynamic hkeys =>
    cases step with
    | dynamicKeys => exact hdynamic
    | items => rfl
    | key name =>
      cases keys with
      | none =>
        cases hkeys
        rfl
      | some keys =>
        cases hoverlay with
        | dict hnodup =>
          obtain ⟨merged, hmerged, rfl⟩ := Option.map_eq_some_iff.1 hkeys
          exact lookup_of_mergedKeys? hnodup hmerged name
  | list hitems =>
    cases step with
    | items => exact hitems
    | _ => rfl

theorem keyNames?_of_merged? (hoverlay : overlay.WellFormed)
    (h : base.merged? order overlay = some merged) :
    merged.keyNames? = mergedNames base.keyNames? overlay.keyNames? := by
  cases mergesTo_of_merged? h with
  | str | int | bool | list => rfl
  | @dict _ _ keys baseKeys _ _ _ _ _ _ _ hkeys =>
    cases keys with
    | none =>
      cases hkeys
      rfl
    | some keys =>
      cases hoverlay with
      | dict hnodup =>
        obtain ⟨merged, hmerged, rfl⟩ := Option.map_eq_some_iff.1 hkeys
        have hnames := names_of_mergedKeys? hnodup hmerged
        cases baseKeys <;> simpa [keyNames?, mergedNames] using hnames

theorem exists_merged? (hoverlay : overlay.WellFormed) (hkind : base.kind = overlay.kind)
    (h : ∀ step, ∃ inner, mergedOptional? order (base.below? step) (overlay.below? step) =
      some inner) :
    ∃ merged, base.merged? order overlay = some merged := by
  cases hoverlay with
  | str | int | bool =>
    cases base <;> cases hkind
    simp only [merged?_str, merged?_int, merged?_bool, Option.some.injEq, exists_eq']
  | @dict a keys dynamicKeys other hnodup =>
    cases base with
    | dict b baseKeys baseDynamicKeys baseOther =>
      obtain ⟨mergedDynamicKeys, hdynamic⟩ := h .dynamicKeys
      have hkeys : ∃ mergedKeys, mergedOptionalKeys? order baseKeys keys = some mergedKeys := by
        cases keys with
        | none => exact ⟨baseKeys, rfl⟩
        | some keys =>
          have heach : ∀ entry ∈ keys,
              ∃ node, mergedOver? order ((baseKeys.getD []).lookup entry.1) entry.2 =
                some node := by
            intro entry hentry
            obtain ⟨inner, hinner⟩ := h (.key entry.1)
            have hlookup : (dict a (some keys) dynamicKeys other).below? (.key entry.1) =
                some entry.2 :=
              Entries.lookup_of_mem hnodup hentry
            rw [hlookup] at hinner
            obtain ⟨node, hnode, -⟩ := Option.map_eq_some_iff.1 hinner
            exact ⟨node, hnode⟩
          have hmerged : ∃ merged, mergedKeys? order (baseKeys.getD []) keys = some merged :=
            exists_mergedKeys? hnodup heach
          obtain ⟨merged, hmerged⟩ := hmerged
          exact ⟨some merged, by rw [mergedOptionalKeys?, hmerged, Option.map_some]⟩
      obtain ⟨mergedKeys, hkeys⟩ := hkeys
      have hdynamic : mergedOptional? order baseDynamicKeys dynamicKeys = some mergedDynamicKeys :=
        hdynamic
      exact ⟨_, by rw [merged?_dict, hdynamic, Option.bind_some, hkeys, Option.map_some]⟩
    | _ => cases hkind
  | @list a items c =>
    cases base with
    | list b baseItems d =>
      obtain ⟨mergedItems, hitems⟩ := h .items
      have hitems : mergedOptional? order baseItems items = some mergedItems := hitems
      exact ⟨_, by rw [merged?_list, hitems, Option.map_some]⟩
    | _ => cases hkind

theorem exists_merged?_below (hoverlay : overlay.WellFormed)
    (hkind : base.kind = overlay.kind) {below : Step → Option Node}
    (h : ∀ step, mergedOptional? order (base.below? step) (overlay.below? step) =
      some (below step)) :
    ∃ merged, base.merged? order overlay = some merged ∧
      ∀ step, merged.below? step = below step := by
  obtain ⟨merged, hmerged⟩ : ∃ merged, base.merged? order overlay = some merged :=
    exists_merged? hoverlay hkind fun step => ⟨below step, h step⟩
  refine ⟨merged, hmerged, fun step => ?_⟩
  exact Option.some.inj ((below?_of_merged? hoverlay hmerged step).symm.trans (h step))

/-! ### Nodes that say nothing -/

def blank : Kind → Node
  | .str => .str .empty ⟨none, none, none, none, none, none⟩
  | .int => .int .empty ⟨none, none, none⟩
  | .bool => .bool .empty ⟨none⟩
  | .dict => .dict .empty none none none
  | .list => .list .empty none ⟨none, none, none⟩

theorem blank_wellFormed (kind : Kind) : (blank kind).WellFormed := by
  cases kind <;> constructor <;> simp

@[simp]
theorem kind_blank (kind : Kind) : (blank kind).kind = kind := by
  cases kind <;> rfl

@[simp]
theorem below?_blank (kind : Kind) (step : Step) : (blank kind).below? step = none := by
  cases kind <;> cases step <;> rfl

theorem blank_noReferences (kind : Kind) : (blank kind).NoReferences := by
  intro steps inner hinner
  cases steps with
  | nil =>
    cases hinner
    cases kind <;> rfl
  | cons step rest => simp [at?] at hinner

theorem merged?_blank (base : Node) : base.merged? order (blank base.kind) = some base := by
  cases base with
  | str => exact merged?_str ..
  | int => exact merged?_int ..
  | bool => exact merged?_bool ..
  | dict => exact merged?_dict ..
  | list => exact merged?_list ..

end DataSchema.Node
