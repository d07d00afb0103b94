import DataSchema.Proofs.Node.Alike

/-!
# Merging nodes is associative and idempotent

When all merges list values on the same side first, nothing depends on which two of three nodes are
merged first, not even the order of keys and of listed values. A node is known from what it says
itself, from the names of its keys, and from the nodes one step below it. The first two are merged
for good, whatever is below; the merge of what is below a step can fail, but looks at nothing else.
-/

namespace DataSchema

/-! ### What a node says itself -/

section

variable (order : ListOrder)

theorem Attributes.merge_assoc (a b c : Attributes) :
    (a.merge order b).merge order c = a.merge order (b.merge order c) := by
  simp only [Attributes.merge, Option.or_assoc, order.unite_assoc]

theorem TextConstraints.merge_assoc (a b c : TextConstraints) :
    (a.merge order b).merge order c = a.merge order (b.merge order c) := by
  simp only [TextConstraints.merge, Option.or_assoc, order.unite_assoc]

theorem IntConstraints.merge_assoc (a b c : IntConstraints) :
    (a.merge order b).merge order c = a.merge order (b.merge order c) := by
  simp only [IntConstraints.merge, Option.or_assoc, order.unite_assoc]

theorem BoolConstraints.merge_assoc (a b c : BoolConstraints) :
    (a.merge order b).merge order c = a.merge order (b.merge order c) := by
  simp only [BoolConstraints.merge, order.unite_assoc]

theorem ListConstraints.merge_assoc (a b c : ListConstraints) :
    (a.merge b).merge c = a.merge (b.merge c) := by
  simp only [ListConstraints.merge, Option.or_assoc]

theorem Attributes.merge_self (a : Attributes) : a.merge order a = a := by
  simp only [Attributes.merge, Option.or_self, order.unite_self]

theorem TextConstraints.merge_self (c : TextConstraints) : c.merge order c = c := by
  simp only [TextConstraints.merge, Option.or_self, order.unite_self]

theorem IntConstraints.merge_self (c : IntConstraints) : c.merge order c = c := by
  simp only [IntConstraints.merge, Option.or_self, order.unite_self]

theorem BoolConstraints.merge_self (c : BoolConstraints) : c.merge order c = c := by
  simp only [BoolConstraints.merge, order.unite_self]

theorem ListConstraints.merge_self (c : ListConstraints) : c.merge c = c := by
  simp only [ListConstraints.merge, Option.or_self]

end

namespace Node

def bare : Node → Node
  | .dict a _ _ other => .dict a none none other
  | .list a _ c => .list a none c
  | node => node

variable {order : ListOrder} {node other first second third left right merged merged' : Node}

/-- A node is known from what it says itself, the names of its keys, and what is below it. -/
theorem eq_of_below? (hwell : node.WellFormed) (hbare : node.bare = other.bare)
    (hnames : node.keyNames? = other.keyNames?)
    (hbelow : ∀ step, node.below? step = other.below? step) : node = other := by
  cases hwell with
  | str | int | bool =>
    cases other <;> cases hbare
    rfl
  | @dict a keys dynamicKeys allowed hnodup =>
    cases other with
    | dict a' keys' dynamicKeys' allowed' =>
      cases hbare
      have hdynamic : dynamicKeys = dynamicKeys' := hbelow .dynamicKeys
      have hlookup : ∀ name, (keys.getD []).lookup name = (keys'.getD []).lookup name :=
        fun name => hbelow (.key name)
      have hkeys : keys = keys' := by
        cases keys with
        | none =>
          cases keys' <;> cases hnames
          rfl
        | some keys =>
          cases keys' with
          | none => cases hnames
          | some keys' =>
            exact congrArg some (Entries.eq_of_lookup hnodup (Option.some.inj hnames) hlookup)
      rw [hdynamic, hkeys]
    | _ => cases hbare
  | @list a items c =>
    cases other with
    | list a' items' c' =>
      cases hbare
      have hitems : items = items' := hbelow .items
      rw [hitems]
    | _ => cases hbare

theorem bare_assoc (hleft : first.merged? order second = some left)
    (h : left.merged? order third = some merged) (hright : second.merged? order third = some right)
    (h' : first.merged? order right = some merged') :
    merged.bare = merged'.bare := by
  cases mergesTo_of_merged? hleft <;> cases mergesTo_of_merged? h <;>
    cases mergesTo_of_merged? hright <;>
    cases mergesTo_of_merged? h'
  all_goals
    simp only [bare, Attributes.merge_assoc, TextConstraints.merge_assoc,
      IntConstraints.merge_assoc, BoolConstraints.merge_assoc, ListConstraints.merge_assoc,
      Option.or_assoc]

theorem bare_of_merged?_self (h : node.merged? order node = some merged) :
    merged.bare = node.bare := by
  cases mergesTo_of_merged? h
  all_goals
    simp only [bare, Attributes.merge_self, TextConstraints.merge_self, IntConstraints.merge_self,
      BoolConstraints.merge_self, ListConstraints.merge_self, Option.or_self]

theorem mergedNames_self (names : Option (List String)) : mergedNames names names = names := by
  cases names with
  | none => rfl
  | some names => simp [mergedNames]

/-! ### Merging a node onto itself -/

theorem merged?_self (hnode : node.WellFormed) : node.merged? order node = some node := by
  induction node using inductionOnBelow with
  | h node ih =>
    have hstep : ∀ step, mergedOptional? order (node.below? step) (node.below? step) =
        some (node.below? step) := by
      intro step
      cases hinner : node.below? step with
      | none => rfl
      | some inner =>
        have hself : inner.merged? order inner = some inner :=
          ih step inner hinner (hnode.below? hinner)
        exact congrArg (Option.map some) hself
    obtain ⟨merged, hmerged, hbelow⟩ := exists_merged?_below hnode rfl hstep
    have hnames : node.keyNames? = merged.keyNames? := by
      rw [keyNames?_of_merged? hnode hmerged, mergedNames_self]
    have hsame : node = merged :=
      eq_of_below? hnode (bare_of_merged?_self hmerged).symm hnames fun step => (hbelow step).symm
    rw [hmerged, hsame]

/-! ### Merging three nodes -/

theorem mergedOptional?_bind_assoc {first second third : Option Node}
    (h : ∀ a b c, first = some a → second = some b → third = some c →
      (a.merged? order b).bind (·.merged? order c) = (b.merged? order c).bind (a.merged? order)) :
    (mergedOptional? order first second).bind (mergedOptional? order · third) =
      (mergedOptional? order second third).bind (mergedOptional? order first) := by
  cases third with
  | none => exact Option.bind_fun_some _
  | some c =>
    cases second with
    | none => rfl
    | some b =>
      cases first with
      | none =>
        simp only [mergedOptional?, mergedOver?, Option.map_some, Option.bind_some, Option.bind_map,
          Function.comp_def]
        rw [Option.map_eq_bind]
        rfl
      | some a =>
        have hsame := congrArg (Option.map some) (h a b c rfl rfl rfl)
        simpa only [mergedOptional?, mergedOver?, Option.bind_map, Option.map_bind,
          Function.comp_def] using hsame

/-- Three nodes that merge either way merge to the same node when they do below every step. -/
theorem eq_of_groupings (hfirst : first.WellFormed) (hsecond : second.WellFormed)
    (hthird : third.WellFormed) (hleft : first.merged? order second = some left)
    (h : left.merged? order third = some merged) (hright : second.merged? order third = some right)
    (h' : first.merged? order right = some merged')
    (hbelow : ∀ step, merged.below? step = merged'.below? step) : merged = merged' := by
  have hwell : left.WellFormed := hfirst.merged? hsecond hleft
  refine eq_of_below? (hwell.merged? hthird h) (bare_assoc hleft h hright h') ?_ hbelow
  rw [keyNames?_of_merged? hthird h, keyNames?_of_merged? hsecond hleft,
    keyNames?_of_merged? (hsecond.merged? hthird hright) h', keyNames?_of_merged? hthird hright,
    mergedNames_assoc]

theorem exists_grouped_left {below : Step → Option Node}
    (hsecond : second.WellFormed) (hthird : third.WellFormed)
    (hkind : first.kind = second.kind) (hkind' : second.kind = third.kind)
    (h : ∀ step, (mergedOptional? order (first.below? step) (second.below? step)).bind
      (mergedOptional? order · (third.below? step)) = some (below step)) :
    ∃ left merged, first.merged? order second = some left ∧ left.merged? order third = some merged ∧
      ∀ step, merged.below? step = below step := by
  have hsteps : ∀ step, ∃ inner, mergedOptional? order (first.below? step) (second.below? step) =
      some inner ∧
      mergedOptional? order inner (third.below? step) = some (below step) :=
    fun step => Option.bind_eq_some_iff.1 (h step)
  choose between hbetween hbelow using hsteps
  obtain ⟨left, hleft, hsame⟩ := exists_merged?_below hsecond hkind hbetween
  simp only [← hsame] at hbelow
  obtain ⟨merged, hmerged, hsame'⟩ :=
    exists_merged?_below hthird ((kind_merged? hleft).trans hkind') hbelow
  exact ⟨left, merged, hleft, hmerged, hsame'⟩

theorem exists_grouped_right {below : Step → Option Node}
    (hsecond : second.WellFormed) (hthird : third.WellFormed)
    (hkind : first.kind = second.kind) (hkind' : second.kind = third.kind)
    (h : ∀ step, (mergedOptional? order (second.below? step) (third.below? step)).bind
      (mergedOptional? order (first.below? step)) = some (below step)) :
    ∃ right merged, second.merged? order third = some right ∧
      first.merged? order right = some merged ∧
      ∀ step, merged.below? step = below step := by
  have hsteps : ∀ step, ∃ inner, mergedOptional? order (second.below? step)
      (third.below? step) = some inner ∧
      mergedOptional? order (first.below? step) inner = some (below step) :=
    fun step => Option.bind_eq_some_iff.1 (h step)
  choose between hbetween hbelow using hsteps
  obtain ⟨right, hright, hsame⟩ := exists_merged?_below hthird hkind' hbetween
  simp only [← hsame] at hbelow
  have hkindRight : first.kind = right.kind := (hkind.trans hkind').trans (kind_merged? hright).symm
  obtain ⟨merged, hmerged, hsame'⟩ :=
    exists_merged?_below (hsecond.merged? hthird hright) hkindRight hbelow
  exact ⟨right, merged, hright, hmerged, hsame'⟩

theorem merged?_assoc (hfirst : first.WellFormed) (hsecond : second.WellFormed)
    (hthird : third.WellFormed) :
    (first.merged? order second).bind (·.merged? order third) =
      (second.merged? order third).bind (first.merged? order) := by
  induction third using inductionOnBelow generalizing first second with
  | h third ih =>
    have hstep : ∀ step, (mergedOptional? order (first.below? step) (second.below? step)).bind
          (mergedOptional? order · (third.below? step)) =
        (mergedOptional? order (second.below? step) (third.below? step)).bind
          (mergedOptional? order (first.below? step)) := by
      intro step
      apply mergedOptional?_bind_assoc
      intro a b c ha hb hc
      exact ih step c hc (hfirst.below? ha) (hsecond.below? hb) (hthird.below? hc)
    apply Option.ext
    intro merged
    rw [Option.bind_eq_some_iff, Option.bind_eq_some_iff]
    constructor
    · rintro ⟨left, hleft, h⟩
      have hbelow : ∀ step, (mergedOptional? order (second.below? step) (third.below? step)).bind
          (mergedOptional? order (first.below? step)) = some (merged.below? step) := by
        intro step
        rw [← hstep step, below?_of_merged? hsecond hleft step]
        exact below?_of_merged? hthird h step
      have hkind : second.kind = third.kind := (kind_merged? hleft).symm.trans (kind_of_merged? h)
      obtain ⟨right, merged', hright, h', hsame⟩ :=
        exists_grouped_right hsecond hthird (kind_of_merged? hleft) hkind hbelow
      have heq : merged = merged' :=
        eq_of_groupings hfirst hsecond hthird hleft h hright h' fun step => (hsame step).symm
      exact ⟨right, hright, heq ▸ h'⟩
    · rintro ⟨right, hright, h'⟩
      have hbelow : ∀ step, (mergedOptional? order (first.below? step) (second.below? step)).bind
          (mergedOptional? order · (third.below? step)) = some (merged.below? step) := by
        intro step
        rw [hstep step, below?_of_merged? hthird hright step]
        exact below?_of_merged? (hsecond.merged? hthird hright) h' step
      have hkind : second.kind = third.kind := kind_of_merged? hright
      have hkind' : first.kind = second.kind :=
        (kind_of_merged? h').trans ((kind_merged? hright).trans hkind.symm)
      obtain ⟨left, merged', hleft, h, hsame⟩ :=
        exists_grouped_left hsecond hthird hkind' hkind hbelow
      have heq : merged' = merged := eq_of_groupings hfirst hsecond hthird hleft h hright h' hsame
      exact ⟨left, hleft, heq ▸ h⟩

/-- Three nodes merge to the same node, whichever two are merged first, or there is a conflict
of kinds either way; and a node merged onto itself stays as it is. This holds for extending
and for overriding alike. -/
theorem merge_assoc_and_merge_self (order : ListOrder) (path : Path) (hfirst : first.WellFormed)
    (hsecond : second.WellFormed) (hthird : third.WellFormed) :
    ((∃ merged,
      (do
        let left ← first.merge order path second
        left.merge order path third) = .ok merged ∧
      (do
        let right ← second.merge order path third
        first.merge order path right) = .ok merged) ∨
    ∃ conflict conflict' : KindConflict,
      (do
        let left ← first.merge order path second
        left.merge order path third) = .error conflict ∧
      (do
        let right ← second.merge order path third
        first.merge order path right) = .error conflict') ∧
    first.merge order path first = .ok first := by
  constructor
  · apply ok_or_error_of_toOption_eq
    simp only [toOption_bind, toOption_merge]
    exact merged?_assoc hfirst hsecond hthird
  · exact merge_eq_ok_iff.2 (merged?_self hfirst)

def ports (entries : List (String × List Int)) : Node :=
  .dict .empty (some (entries.map fun entry => (entry.1, .int .empty ⟨some entry.2, none, none⟩)))
    none none

theorem ports_wellFormed {entries : List (String × List Int)} (h : (entries.map Prod.fst).Nodup) :
    (ports entries).WellFormed := by
  refine .dict ?_ ?_ (by simp)
  · rwa [Option.getD_some, List.map_map]
  · rw [Option.getD_some, List.forall_mem_map]
    exact fun entry _ => .int

/-- The first dict repeats a value, and each of the three has a port of its own. -/
theorem merge_assoc_ports : ∃ merged,
    (do
      let left ← (ports [("a", [1, 1]), ("b", [])]).merge .overlayFirst []
        (ports [("c", [4]), ("a", [2, 1])])
      left.merge .overlayFirst [] (ports [("d", [5]), ("c", [6, 4]), ("a", [3, 2])])) = .ok merged ∧
    (do
      let right ← (ports [("c", [4]), ("a", [2, 1])]).merge .overlayFirst []
        (ports [("d", [5]), ("c", [6, 4]), ("a", [3, 2])])
      (ports [("a", [1, 1]), ("b", [])]).merge .overlayFirst [] right) = .ok merged ∧
    merged.toDocument =
      (ports [("a", [3, 2, 1]), ("b", []), ("c", [6, 4]), ("d", [5])]).toDocument ∧
    (ports [("a", [1, 1]), ("b", [])]).merge .overlayFirst [] (ports [("a", [1, 1]), ("b", [])]) =
      .ok (ports [("a", [1, 1]), ("b", [])]) := by
  have hrun : (do
      let left ← (ports [("a", [1, 1]), ("b", [])]).merge .overlayFirst []
        (ports [("c", [4]), ("a", [2, 1])])
      left.merge .overlayFirst [] (ports [("d", [5]), ("c", [6, 4]), ("a", [3, 2])]) : Except
        KindConflict Node).toOption.any
      (fun merged : Node => merged.toDocument =
        (ports [("a", [3, 2, 1]), ("b", []), ("c", [6, 4]), ("d", [5])]).toDocument) = true := by
    decide +kernel
  obtain ⟨result, hresult, hdocument⟩ := exists_ok_of_any hrun
  obtain ⟨hgroupings, hself⟩ := merge_assoc_and_merge_self .overlayFirst []
    (@ports_wellFormed [("a", [1, 1]), ("b", [])] (by decide))
    (@ports_wellFormed [("c", [4]), ("a", [2, 1])] (by decide))
    (@ports_wellFormed [("d", [5]), ("c", [6, 4]), ("a", [3, 2])] (by decide))
  rcases hgroupings with ⟨merged, hleft, hright⟩ | ⟨conflict, _, hleft, -⟩
  · cases hresult.symm.trans hleft
    exact ⟨result, hleft, hright, of_decide_eq_true hdocument, hself⟩
  · cases hresult.symm.trans hleft

end Node

end DataSchema
