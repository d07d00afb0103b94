import DataSchema.Proofs.Merge.Failures
import DataSchema.Proofs.Merge.Grouping

/-!
# Merging address by address

An address leads to a value through the keys of dicts and, in lists with a primary key, through the
texts that identify the elements. Where two documents merge, nothing is lost or invented at any
address: a side that is absent or null leaves the other as it is, scalars give way to those of the
overlay, and dicts and lists stay dicts and lists. The merge fails exactly when two values at one
address do not fit together.
-/

namespace DataSchema

open Merge

/-! ### Addresses -/

/-- A step of an address: to a key of a dict, or to the element of a keyed list
that a text identifies. -/
inductive Locator where
  | key (name : String)
  | element (identity : String)
deriving DecidableEq

namespace Locator

def below (node : Option Node) : Locator → Option Node
  | .key name => node.bind (·.child? name)
  | .element _ => node.bind Node.items?

/-- The node that governs the value at an address. -/
def governing (node : Option Node) (address : List Locator) : Option Node :=
  address.foldl below node

end Locator

namespace Document

/-- The value one step below. Elements of a list have addresses only if the
list has a primary key. -/
def part? (node : Option Node) (value : Document) : Locator → Option Document
  | .key name => value.get? name
  | .element identity =>
    match value with
    | .array elements =>
      (node.bind Node.primaryKey?).bind fun key => elements.find? fun element =>
        identity? key element == some identity
    | _ => none

def locate? (node : Option Node) (value : Document) : List Locator → Option Document
  | [] => some value
  | locator :: rest =>
    (value.part? node locator).bind fun part => part.locate? (locator.below node) rest

/-- Every keyed list that an address leads to has distinct keys. -/
def Addressable (node : Option Node) (value : Document) : Prop :=
  ∀ address elements key, value.locate? node address = some (.array elements) →
    (Locator.governing node address).bind Node.primaryKey? = some key → DistinctKeys key elements

/-- Two values that do not fit together: both are there, one of them is a container, and they are
not both dicts or both lists. -/
def Clash (x y : Document) : Prop :=
  x ≠ .null ∧ y ≠ .null ∧ (x.shape.isContainer = true ∨ y.shape.isContainer = true) ∧
    ¬ (x.shape = .dict ∧ y.shape = .dict) ∧ ¬ (x.shape = .list ∧ y.shape = .list)

/-- What is expected of the values at one address of a base, an overlay and the merged document; an
absent value counts as null. -/
structure Overlaid (base overlay merged : Document) : Prop where
  keepsBase : overlay = .null → merged = base
  takesOverlay : base = .null → merged = overlay
  scalars : base.form = .scalar → overlay.form = .scalar → merged = overlay
  dicts : base.form = .dict → overlay.form = .dict → merged.form = .dict
  lists : base.form = .list → overlay.form = .list → merged.form = .list

variable {options : MergeOptions} {depth : Nat} {node : Option Node}
  {base overlay merged value inner : Document} {locator : Locator}

theorem clash_iff_form (hx : base ≠ .null) (hy : overlay ≠ .null) :
    Clash base overlay ↔ base.form ≠ overlay.form := by
  unfold Clash
  cases base <;> cases overlay <;> simp_all [shape, Shape.isContainer, form]

theorem part?_null : null.part? node locator = none := by
  cases locator <;> rfl

theorem part?_of_scalar (h : value.form = .scalar) : value.part? node locator = none := by
  cases value <;> cases locator <;> first | rfl | cases h

theorem part?_element {key : String} (hkey : node.bind Node.primaryKey? = some key)
    (elements : List Document) (identity : String) :
    (array elements).part? node (.element identity) = held? identity (slots key elements) := by
  rw [part?, hkey, Option.bind_some]
  induction elements with
  | nil => rfl
  | cons element rest ih =>
    change _ = (find? identity ((identity? key element, element) :: slots key rest)).map Prod.snd
    by_cases htag : identity? key element = some identity
    · simp only [List.find?_cons, htag, beq_self_eq_true, find?_cons_self, Option.map_some]
    · rw [find?_cons_of_ne htag, Option.map_map, List.find?_cons, beq_eq_false_iff_ne.2 htag]
      exact ih

theorem Addressable.part (h : Addressable node value)
    (hpart : value.part? node locator = some inner) :
    Addressable (locator.below node) inner := by
  intro address elements key hlist hkey
  refine h (locator :: address) elements key ?_ hkey
  rw [locate?, hpart]
  exact hlist

theorem part?_eq_some (h : value.part? node locator = some inner) :
    (∃ entries name, value = .object entries ∧ locator = .key name ∧ (name, inner) ∈ entries) ∨
    ∃ elements identity key, value = .array elements ∧ locator = .element identity ∧
      node.bind Node.primaryKey? = some key ∧
      inner ∈ elements := by
  cases value with
  | object entries =>
    cases locator with
    | key name => exact .inl ⟨entries, name, rfl, rfl, Entries.mem_of_lookup h⟩
    | element => cases h
  | array elements =>
    cases locator with
    | key => cases h
    | element identity =>
      obtain ⟨key, hkey, hfound⟩ := Option.bind_eq_some_iff.1 h
      exact .inr ⟨elements, identity, key, rfl, rfl, hkey, List.mem_of_find?_eq_some hfound⟩
  | null | bool | int | float | string => cases locator <;> cases h

theorem WellFormed.part (h : value.WellFormed) (hpart : value.part? node locator = some inner) :
    inner.WellFormed := by
  rcases part?_eq_some hpart with ⟨entries, name, rfl, rfl, hmem⟩
    | ⟨elements, identity, key, rfl, rfl, -, hmem⟩
  · exact (wellFormed_object.1 h).2 _ hmem
  · exact wellFormed_array.1 h inner hmem

/-- What holds of a value when it holds of all values one step below holds of every value. -/
@[elab_as_elim]
theorem part_induction {motive : Option Node → Document → Prop}
    (step : ∀ node value, (∀ locator inner, value.part? node locator = some inner →
        motive (locator.below node) inner) →
      motive node value) (node : Option Node) (value : Document) : motive node value := by
  induction value generalizing node with
  | object entries ih =>
    refine step node _ fun locator inner hpart => ?_
    rcases part?_eq_some hpart with ⟨_, name, ⟨⟩, rfl, hmem⟩ | ⟨_, _, _, ⟨⟩, -⟩
    exact ih (name, inner) hmem _
  | array elements ih =>
    refine step node _ fun locator inner hpart => ?_
    rcases part?_eq_some hpart with ⟨_, _, ⟨⟩, -⟩ | ⟨_, _, _, ⟨⟩, rfl, -, hmem⟩
    exact ih inner hmem _
  | null | bool | int | float | string =>
    exact step node _ fun locator _ hpart => by cases locator <;> cases hpart

theorem addressable_of_wellKeyed (h : WellKeyed node value) : Addressable node value := by
  intro address elements key hlist hkey
  induction address generalizing node value with
  | nil =>
    cases hlist
    cases h with
    | scalar hscalar => cases hscalar
    | unkeyed hnone => cases hnone.symm.trans hkey
    | keyed hsome hdistinct =>
      cases hsome.symm.trans hkey
      exact hdistinct
  | cons locator rest ih =>
    obtain ⟨inner, hpart, hrest⟩ := Option.bind_eq_some_iff.1 hlist
    refine ih ?_ hrest hkey
    rcases part?_eq_some hpart with ⟨entries, name, rfl, rfl, hmem⟩
      | ⟨elements, identity, key, rfl, rfl, hsome, hmem⟩
    · cases h with
      | scalar hscalar => cases hscalar
      | object hentries => exact hentries _ hmem
    · cases h with
      | scalar hscalar => cases hscalar
      | unkeyed hnone => cases hnone.symm.trans hsome
      | keyed _ _ helements => exact helements inner hmem

/-! ### One step -/

/-- One step below two values that merge, the result comes from what the two hold there. -/
theorem combined_part? (hbase : Addressable node base) (hoverlay : Addressable node overlay)
    (hwellFormed : overlay.WellFormed) (hx : base ≠ .null) (hy : overlay ≠ .null)
    (h : merged? options depth node base overlay = some merged) (locator : Locator) :
    Combined (fun x y merged => merged? options (depth + 1) (locator.below node) x y = some merged)
      (base.part? node locator) (overlay.part? node locator) (merged.part? node locator) := by
  obtain ⟨hform, hresult⟩ := form_of_merged? h hx hy
  cases overlay with
  | null => exact absurd rfl hy
  | object overlay =>
    cases base with
    | object base =>
      obtain ⟨entries, rfl, hlaid⟩ := merged?_object_eq_some h
      cases locator with
      | key name => exact combined_lookup (wellFormed_object.1 hwellFormed).1 hlaid name
      | element => exact .base
    | _ => cases hform
  | array overlay =>
    cases base with
    | array base =>
      cases hkey : node.bind Node.primaryKey? with
      | none =>
        rw [merged?_unkeyed (le_maxDepth_of_merged? h) hkey] at h
        cases h
        cases locator with
        | key => exact .base
        | element identity =>
          simp only [part?, hkey, Option.bind_none]
          exact .base
      | some key =>
        rw [merged?_keyed (le_maxDepth_of_merged? h) hkey] at h
        obtain ⟨result, hlaid, rfl⟩ := Option.map_eq_some_iff.1 h
        have hdistinct : DistinctKeys key base := hbase [] base key rfl hkey
        have hdistinct' : DistinctKeys key overlay := hoverlay [] overlay key rfl hkey
        obtain ⟨htagged, -⟩ :=
          layAll_slots hdistinct hdistinct' (wellFormed_array.1 hwellFormed) hlaid
        cases locator with
        | key => exact .base
        | element identity =>
          rw [part?_element hkey, part?_element hkey, part?_element hkey,
            slots_map_snd fun slot hslot => (htagged slot hslot).1]
          exact combined_layAll (tags_slots key overlay ▸ hdistinct'.distinct) hlaid identity
    | _ => cases hform
  | bool | int | float | string =>
    rw [part?_of_scalar hform, part?_of_scalar rfl, part?_of_scalar hresult]
    exact .base

theorem combined_locate? (hbase : Addressable node base) (hoverlay : Addressable node overlay)
    (hwellFormed : overlay.WellFormed) (h : merged? options depth node base overlay = some merged)
    (address : List Locator) :
    Combined (fun x y merged => merged? options (depth + address.length)
        (Locator.governing node address) x y = some merged)
      (base.locate? node address) (overlay.locate? node address) (merged.locate? node address) := by
  induction address generalizing depth node base overlay merged with
  | nil => exact .both h
  | cons locator rest ih =>
    simp only [locate?]
    by_cases hx : base = .null
    · rw [hx, merged?_null_left (le_maxDepth_of_merged? h)] at h
      cases h
      rw [hx, part?_null]
      exact .of_absent _
    by_cases hy : overlay = .null
    · rw [hy, merged?_null_right (le_maxDepth_of_merged? h)] at h
      cases h
      rw [hy, part?_null]
      exact .base
    have hstep := combined_part? hbase hoverlay hwellFormed hx hy h locator
    generalize hpart : base.part? node locator = x at hstep ⊢
    generalize hpart' : overlay.part? node locator = y at hstep ⊢
    generalize merged.part? node locator = m at hstep ⊢
    cases hstep with
    | base => exact .base
    | overlay => exact .of_absent _
    | both hmerged =>
      have hrest := ih (hbase.part hpart) (hoverlay.part hpart') (hwellFormed.part hpart') hmerged
      rw [Nat.add_assoc, Nat.add_comm 1] at hrest
      exact hrest

/-! ### Nothing is lost or invented -/

theorem overlaid_of_merged? (h : merged? options depth node base overlay = some merged) :
    Overlaid base overlay merged where
  keepsBase hnull := by
    rw [hnull, merged?_null_right (le_maxDepth_of_merged? h)] at h
    exact (Option.some.inj h).symm
  takesOverlay hnull := by
    rw [hnull, merged?_null_left (le_maxDepth_of_merged? h)] at h
    exact (Option.some.inj h).symm
  scalars hx hy := by
    have hnull : overlay ≠ .null := ne_null_of_form hy (by decide)
    rw [merged?_scalar (le_maxDepth_of_merged? h) (isContainer_of_form_scalar hx)
      (isContainer_of_form_scalar hy) hnull] at h
    exact (Option.some.inj h).symm
  dicts hx hy :=
    (form_of_merged? h (ne_null_of_form hx (by decide)) (ne_null_of_form hy (by decide))).2.trans hy
  lists hx hy :=
    (form_of_merged? h (ne_null_of_form hx (by decide)) (ne_null_of_form hy (by decide))).2.trans hy

theorem Overlaid.of_combined {x y m : Option Document}
    {combines : Document → Document → Document → Prop}
    (hcombines : ∀ x y m, combines x y m → Overlaid x y m) (h : Combined combines x y m) :
    Overlaid (x.getD .null) (y.getD .null) (m.getD .null) := by
  cases h with
  | base => exact ⟨fun _ => rfl, fun hnull => hnull, nofun, nofun, nofun⟩
  | overlay => exact ⟨fun hnull => hnull, fun _ => rfl, nofun, nofun, nofun⟩
  | both hmerged => exact hcombines _ _ _ hmerged

/-! ### Where values do not fit together -/

theorem not_clash_of_merged? (hbase : Addressable node base) (hoverlay : Addressable node overlay)
    (hwellFormed : overlay.WellFormed) (h : merged? options depth node base overlay = some merged)
    {address : List Locator} {x y : Document} (hx : base.locate? node address = some x)
    (hy : overlay.locate? node address = some y) : ¬ Clash x y := by
  intro hclash
  have hcombined := combined_locate? hbase hoverlay hwellFormed h address
  rw [hx, hy] at hcombined
  generalize merged.locate? node address = m at hcombined
  cases hcombined with
  | both hmerged =>
    exact (clash_iff_form hclash.1 hclash.2.1).1 hclash
      (form_of_merged? hmerged hclash.1 hclash.2.1).1

theorem exists_part?_of_mergeAt_eq_error {error : MergeError}
    (hoverlay : Addressable node overlay) (hwellFormed : overlay.WellFormed)
    (h : mergeAt options depth node base overlay = .error error) :
    options.maxDepth < depth ∨
    (Clash base overlay ∧ error = .structureMismatch [] base.shape overlay.shape) ∨
    ∃ locator x y inner segment, base.part? node locator = some x ∧
      overlay.part? node locator = some y ∧
      mergeAt options (depth + 1) (locator.below node) x y = .error inner ∧
      error = inner.below segment := by
  rcases mergeAt_eq_error h with ⟨hdeep, -⟩ | ⟨hx, hy, hform, herror⟩ |
    ⟨entries, entries', rfl, rfl, hentries⟩ |
    ⟨elements, elements', key, rfl, rfl, hkey, helements⟩
  · exact .inl hdeep
  · exact .inr (.inl ⟨(clash_iff_form hx hy).2 hform, herror⟩)
  · obtain ⟨hnodup, -⟩ := wellFormed_object.1 hwellFormed
    obtain ⟨name, x, y, inner, hx, hy, hinner, herror⟩ := mergeEntries_eq_error hnodup hentries
    exact .inr (.inr ⟨.key name, x, y, inner, .key name, hx, Entries.lookup_of_mem hnodup hy,
      hinner, herror⟩)
  · have hdistinct := (hoverlay [] elements' key rfl hkey).distinct
    obtain ⟨identity, place, x, y, inner, hx, hy, htag, hinner, herror⟩ :=
      mergeKeyed_eq_error hdistinct helements
    refine .inr (.inr ⟨.element identity, x, y, inner, .index place, ?_, ?_, hinner, herror⟩)
    · rw [part?_element hkey, held?, hx, Option.map_some]
    · rw [part?_element hkey]
      exact held?_of_mem (tags_slots key elements' ▸ hdistinct)
        (List.mem_map.2 ⟨y, hy, by rw [htag]⟩)

/-- A merge fails at an address that both documents have: it is too deep, or
the values there clash. -/
theorem exists_of_mergeAt_eq_error {error : MergeError}
    (hoverlay : Addressable node overlay) (hwellFormed : overlay.WellFormed)
    (h : mergeAt options depth node base overlay = .error error) :
    ∃ address x y, base.locate? node address = some x ∧ overlay.locate? node address = some y ∧
      (options.maxDepth < depth + address.length ∨ Clash x y ∧
        ∃ path shape shape', error = .structureMismatch path shape shape') := by
  induction node, overlay using part_induction generalizing depth base error with
  | step node overlay ih =>
    rcases exists_part?_of_mergeAt_eq_error hoverlay hwellFormed h with hdeep | ⟨hclash, herror⟩ |
      ⟨locator, x, y, inner, segment, hx, hy, hinner, herror⟩
    · exact ⟨[], base, overlay, rfl, rfl, .inl hdeep⟩
    · exact ⟨[], base, overlay, rfl, rfl, .inr ⟨hclash, _, _, _, herror⟩⟩
    · obtain ⟨address, x', y', hx', hy', hcause⟩ :=
        ih locator y hy (hoverlay.part hy) (hwellFormed.part hy) hinner
      refine ⟨locator :: address, x', y', Option.bind_eq_some_iff.2 ⟨x, hx, hx'⟩,
        Option.bind_eq_some_iff.2 ⟨y, hy, hy'⟩, ?_⟩
      rcases hcause with hdeep | ⟨hclash, path, shape, shape', rfl⟩
      · exact .inl (by rw [List.length_cons]; omega)
      · exact .inr ⟨hclash, segment :: path, shape, shape', herror⟩

/-- Two documents whose keyed lists have distinct keys, and which have no address in common that is
too deep, fail to merge exactly when their values clash at some address. Otherwise nothing is lost
or invented at any address. -/
theorem merge_overlaid_or_clash (hbase : Addressable node base)
    (hoverlay : Addressable node overlay) (hwellFormed : overlay.WellFormed)
    (hdepth : ∀ address x y, base.locate? node address = some x →
      overlay.locate? node address = some y →
      address.length ≤ options.maxDepth) :
    ((∃ address x y, base.locate? node address = some x ∧
        overlay.locate? node address = some y ∧ Clash x y) ↔
      ∃ path shape shape', merge options node base overlay =
        .error (.structureMismatch path shape shape')) ∧
    ((¬ ∃ address x y, base.locate? node address = some x ∧
        overlay.locate? node address = some y ∧ Clash x y) →
      ∃ merged, merge options node base overlay = .ok merged ∧ ∀ address,
        Overlaid ((base.locate? node address).getD .null)
          ((overlay.locate? node address).getD .null)
          ((merged.locate? node address).getD .null)) := by
  have hfailure : ∀ error, merge options node base overlay = .error error →
      (∃ address x y, base.locate? node address = some x ∧
        overlay.locate? node address = some y ∧ Clash x y) ∧
      ∃ path shape shape', error = .structureMismatch path shape shape' := by
    intro error herror
    obtain ⟨address, x, y, hx, hy, hcause⟩ := exists_of_mergeAt_eq_error hoverlay hwellFormed herror
    rcases hcause with hdeep | ⟨hclash, hmismatch⟩
    · have hbound := hdepth address x y hx hy
      omega
    · exact ⟨⟨address, x, y, hx, hy, hclash⟩, hmismatch⟩
  refine ⟨⟨fun ⟨address, x, y, hx, hy, hclash⟩ => ?_, fun ⟨_, _, _, herror⟩ =>
    (hfailure _ herror).1⟩, fun hno => ?_⟩
  · cases hresult : merge options node base overlay with
    | error error =>
      obtain ⟨-, path, shape, shape', rfl⟩ := hfailure error hresult
      exact ⟨path, shape, shape', rfl⟩
    | ok merged =>
      have hmerged : merged? options 0 node base overlay = some merged := toOption_eq_some.2 hresult
      exact absurd hclash (not_clash_of_merged? hbase hoverlay hwellFormed hmerged hx hy)
  · cases hresult : merge options node base overlay with
    | error error => exact absurd (hfailure error hresult).1 hno
    | ok merged =>
      have hmerged : merged? options 0 node base overlay = some merged := toOption_eq_some.2 hresult
      refine ⟨merged, rfl, fun address => ?_⟩
      exact Overlaid.of_combined (fun _ _ _ => overlaid_of_merged?)
        (combined_locate? hbase hoverlay hwellFormed hmerged address)

theorem length_le_of_locate?_hosts {hosts : List (String × Int)}
    {address : List Locator} {x : Document}
    (h : (array (hosts.map fun entry => host entry.1 entry.2)).locate? node address = some x) :
    address.length ≤ 2 := by
  match address with
  | [] | [_] | [_, _] => simp
  | first :: second :: third :: rest =>
    obtain ⟨element, hfirst, h⟩ := Option.bind_eq_some_iff.1 h
    obtain ⟨held, hsecond, h⟩ := Option.bind_eq_some_iff.1 h
    obtain ⟨inner, hthird, -⟩ := Option.bind_eq_some_iff.1 h
    have helement : element ∈ hosts.map fun entry => host entry.1 entry.2 := by
      rcases part?_eq_some hfirst with ⟨_, _, ⟨⟩, -⟩ | ⟨_, _, _, ⟨⟩, -, -, hmem⟩
      exact hmem
    obtain ⟨entry, -, rfl⟩ := List.mem_map.1 helement
    have hscalar : held.form = .scalar := by
      rcases part?_eq_some hsecond with ⟨_, name, ⟨⟩, -, hmem⟩ | ⟨_, _, _, ⟨⟩, -⟩
      simp only [List.mem_cons, List.not_mem_nil, or_false, Prod.mk.injEq] at hmem
      rcases hmem with ⟨-, rfl⟩ | ⟨-, rfl⟩ <;> rfl
    rw [part?_of_scalar hscalar] at hthird
    cases hthird

/-- Of two lists of hosts, the second moves one host to another port and adds one; every address of
the result holds what it should. -/
theorem merge_overlaid_or_clash_hosts : ∃ merged,
    Addressable (some hostsNode) (.array [host "a" 1, host "b" 2]) ∧
    Addressable (some hostsNode) (.array [host "b" 3, host "c" 4]) ∧
    merge .standard (some hostsNode) (.array [host "a" 1, host "b" 2])
      (.array [host "b" 3, host "c" 4]) = .ok merged ∧
    ∀ address,
      Overlaid (((array [host "a" 1, host "b" 2]).locate? (some hostsNode) address).getD .null)
        (((array [host "b" 3, host "c" 4]).locate? (some hostsNode) address).getD .null)
        ((merged.locate? (some hostsNode) address).getD .null) := by
  have hfirst : Mergeable (some hostsNode) (.array [host "a" 1, host "b" 2]) :=
    @mergeable_hosts [("a", 1), ("b", 2)] (by decide +kernel)
  have hsecond : Mergeable (some hostsNode) (.array [host "b" 3, host "c" 4]) :=
    @mergeable_hosts [("b", 3), ("c", 4)] (by decide +kernel)
  have hbase := addressable_of_wellKeyed hfirst.wellKeyed
  have hoverlay := addressable_of_wellKeyed hsecond.wellKeyed
  have hdepth : ∀ address x y,
      (array [host "a" 1, host "b" 2]).locate? (some hostsNode) address = some x →
      (array [host "b" 3, host "c" 4]).locate? (some hostsNode) address = some y →
      address.length ≤ MergeOptions.standard.maxDepth := by
    intro address x _ hx _
    exact Nat.le_trans (@length_le_of_locate?_hosts _ [("a", 1), ("b", 2)] address x hx) (by decide)
  obtain ⟨hclash, hok⟩ := merge_overlaid_or_clash hbase hoverlay hsecond.wellFormed hdepth
  have hresult : merge .standard (some hostsNode) (.array [host "a" 1, host "b" 2])
      (.array [host "b" 3, host "c" 4]) =
      .ok (.array [host "a" 1, host "b" 3, host "c" 4]) := by
    rw [← toOption_eq_some]
    decide +kernel
  have hfits : ¬ ∃ address x y,
      (array [host "a" 1, host "b" 2]).locate? (some hostsNode) address = some x ∧
      (array [host "b" 3, host "c" 4]).locate? (some hostsNode) address = some y ∧ Clash x y := by
    intro hexists
    obtain ⟨_, _, _, herror⟩ := hclash.1 hexists
    cases hresult.symm.trans herror
  obtain ⟨merged, hmerged, hoverlaid⟩ := hok hfits
  exact ⟨merged, hbase, hoverlay, hmerged, hoverlaid⟩

end Document

end DataSchema
