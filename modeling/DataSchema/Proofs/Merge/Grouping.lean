import DataSchema.Proofs.Merge.WellKeyed

/-!
# Grouping of merges

Merging is associative on mergeable documents: it does not matter whether three documents are merged
from the left or from the right, neither for the result nor for whether there is one. So a list of
documents can be cut anywhere, and the merged parts merged.
-/

namespace DataSchema

open Merge

namespace Document

variable {options : MergeOptions} {depth : Nat} {node : Option Node}

theorem mergeEntries_assoc {a b c : Entries Document}
    (hb : (b.map Prod.fst).Nodup) (hc : (c.map Prod.fst).Nodup)
    (hassoc : ∀ key x y z, (key, x) ∈ a → (key, y) ∈ b → (key, z) ∈ c →
      (merged? options depth (node.bind (·.child? key)) x y).bind
        (merged? options depth (node.bind (·.child? key)) · z) =
        (merged? options depth (node.bind (·.child? key)) y z).bind
          (merged? options depth (node.bind (·.child? key)) x)) :
    (mergeEntries options depth node a b).toOption.bind (fun ab =>
        (mergeEntries options depth node ab c).toOption) =
      (mergeEntries options depth node b c).toOption.bind fun bc =>
        (mergeEntries options depth node a bc).toOption := by
  refine (Option.map_inj_right fun _ _ => entrySlots_injective).1 ?_
  rw [← tags_entrySlots] at hb hc
  have hslots := layAll_assoc hb hc fun key x y z hx hy hz =>
    hassoc key x y z (mem_entrySlots.1 hx) (mem_entrySlots.1 hy) (mem_entrySlots.1 hz)
  rw [← toOption_mergeEntries, ← toOption_mergeEntries, Option.bind_map, Option.bind_map] at hslots
  rw [Option.map_bind, Option.map_bind]
  simpa only [Function.comp_def, toOption_mergeEntries] using hslots

theorem keyed_assoc (hdepth : depth ≤ options.maxDepth) {key : String}
    (hkey : node.bind Node.primaryKey? = some key) {a b c : List Document}
    (ha : Mergeable node (.array a)) (hb : Mergeable node (.array b))
    (hc : Mergeable node (.array c)) (hassoc : ∀ x y z, x ∈ a → y ∈ b → z ∈ c →
      (merged? options (depth + 1) (node.bind Node.items?) x y).bind
        (merged? options (depth + 1) (node.bind Node.items?) · z) =
        (merged? options (depth + 1) (node.bind Node.items?) y z).bind
          (merged? options (depth + 1) (node.bind Node.items?) x)) :
    (merged? options depth node (.array a) (.array b)).bind
      (merged? options depth node · (.array c)) =
      (merged? options depth node (.array b) (.array c)).bind
        (merged? options depth node (.array a)) := by
  obtain ⟨hdistinctA, helementsA⟩ := (Mergeable.keyed_iff hkey).1 ha
  obtain ⟨hdistinctB, helementsB⟩ := (Mergeable.keyed_iff hkey).1 hb
  obtain ⟨hdistinctC, helementsC⟩ := (Mergeable.keyed_iff hkey).1 hc
  have hmem : ∀ {tag element elements}, (some tag, element) ∈ slots key elements →
      element ∈ elements := by
    intro tag element elements hslot
    obtain ⟨found, hfound, heq⟩ := List.mem_map.1 hslot
    have hsame : found = element := congrArg Prod.snd heq
    exact hsame ▸ hfound
  have hslots :=
    layAll_assoc (tags_slots key b ▸ hdistinctB.distinct) (tags_slots key c ▸ hdistinctC.distinct)
      fun _ x y z hx hy hz => hassoc x y z (hmem hx) (hmem hy) (hmem hz)
  -- The slots of a merged list are those that were laid, so the next merge continues with them.
  have hleft : ∀ laid, layAll (fun _ => merged? options (depth + 1) (node.bind Node.items?))
      (slots key a) (slots key b) = some laid →
      slots key (laid.map Prod.snd) = laid := fun laid hlaid =>
    slots_map_snd fun slot hslot =>
      ((layAll_slots hdistinctA hdistinctB (fun element hmem =>
        (helementsB element hmem).wellFormed) hlaid).1 slot hslot).1
  have hright : ∀ laid, layAll (fun _ => merged? options (depth + 1) (node.bind Node.items?))
      (slots key b) (slots key c) = some laid →
      slots key (laid.map Prod.snd) = laid := fun laid hlaid =>
    slots_map_snd fun slot hslot =>
      ((layAll_slots hdistinctB hdistinctC (fun element hmem =>
        (helementsC element hmem).wellFormed) hlaid).1 slot hslot).1
  have hmapped := congrArg (Option.map fun laid : List Slot => array (laid.map Prod.snd)) hslots
  rw [Option.map_bind, Option.map_bind] at hmapped
  rw [merged?_keyed hdepth hkey, merged?_keyed hdepth hkey, Option.bind_map, Option.bind_map]
  refine Eq.trans (Option.bind_congr fun laid hlaid => ?_)
    (hmapped.trans (Option.bind_congr fun laid hlaid => ?_))
  · rw [Function.comp_apply, Function.comp_apply, merged?_keyed hdepth hkey, hleft laid hlaid]
  · rw [Function.comp_apply, Function.comp_apply, merged?_keyed hdepth hkey, hright laid hlaid]

/-- Only documents of one form need to be looked at: null is neutral on every side, and different
forms make both groupings fail. -/
theorem merged?_assoc_of_form {a b c : Document}
    (hassoc : depth ≤ options.maxDepth → c ≠ .null → a.form = c.form → b.form = c.form →
      (merged? options depth node a b).bind (merged? options depth node · c) =
        (merged? options depth node b c).bind (merged? options depth node a)) :
    (merged? options depth node a b).bind (merged? options depth node · c) =
      (merged? options depth node b c).bind (merged? options depth node a) := by
  by_cases hdepth : options.maxDepth < depth
  · simp only [merged?_tooDeep hdepth, Option.bind_none]
  have hle := Nat.le_of_not_lt hdepth
  by_cases ha : a = .null
  · have hneutral : merged? options depth node .null = some := funext (merged?_null_left hle)
    simp only [ha, hneutral, Option.bind_some, Option.bind_fun_some]
  by_cases hb : b = .null
  · simp only [hb, merged?_null_left hle, merged?_null_right hle, Option.bind_some]
  by_cases hc : c = .null
  · simp only [hc, merged?_null_right hle, Option.bind_some, Option.bind_fun_some]
  by_cases hform : a.form = c.form ∧ b.form = c.form
  · exact hassoc hle hc hform.1 hform.2
  have hnull : ∀ {x y : Document}, x.form = y.form → y ≠ .null → x ≠ .null := by
    rintro x y hsame hy rfl
    cases y <;> first | exact hy rfl | cases hsame
  have hleft : (merged? options depth node a b).bind (merged? options depth node · c) = none := by
    rw [Option.eq_none_iff_forall_ne_some]
    intro r hr
    obtain ⟨ab, hab, habc⟩ := Option.bind_eq_some_iff.1 hr
    obtain ⟨hsame, hresult⟩ := form_of_merged? hab ha hb
    obtain ⟨hsame', -⟩ := form_of_merged? habc (hnull hresult hb) hc
    have hbc := hresult.symm.trans hsame'
    exact hform ⟨hsame.trans hbc, hbc⟩
  have hright : (merged? options depth node b c).bind (merged? options depth node a) = none := by
    rw [Option.eq_none_iff_forall_ne_some]
    intro r hr
    obtain ⟨bc, hbc, habc⟩ := Option.bind_eq_some_iff.1 hr
    obtain ⟨hsame, hresult⟩ := form_of_merged? hbc hb hc
    obtain ⟨hsame', -⟩ := form_of_merged? habc ha (hnull hresult hc)
    exact hform ⟨hsame'.trans hresult, hsame⟩
  rw [hleft, hright]

theorem combine_assoc {α : Type} (strategy : ListStrategy) (a b c : List α) :
    strategy.combine (strategy.combine a b) c = strategy.combine a (strategy.combine b c) := by
  cases strategy <;> simp [ListStrategy.combine]

theorem merged?_assoc {a b c : Document} (ha : Mergeable node a) (hb : Mergeable node b)
    (hc : Mergeable node c) :
    (merged? options depth node a b).bind (merged? options depth node · c) =
      (merged? options depth node b c).bind (merged? options depth node a) := by
  induction c generalizing a b depth node with
  | null => exact merged?_assoc_of_form fun _ hnull => absurd rfl hnull
  | object c ih =>
    refine merged?_assoc_of_form fun hdepth _ hac hbc => ?_
    cases a with
    | object a =>
      cases b with
      | object b =>
        obtain ⟨-, hentriesA⟩ := Mergeable.object_iff.1 ha
        obtain ⟨hnodupB, hentriesB⟩ := Mergeable.object_iff.1 hb
        obtain ⟨hnodupC, hentriesC⟩ := Mergeable.object_iff.1 hc
        have hentries := @mergeEntries_assoc options (depth + 1) node a b c hnodupB hnodupC
          fun key x y z hx hy hz =>
          ih (key, z) hz (hentriesA _ hx) (hentriesB _ hy) (hentriesC _ hz)
        have hmapped := congrArg (Option.map object) hentries
        rw [Option.map_bind, Option.map_bind] at hmapped
        simpa only [merged?_object hdepth, Option.bind_map, Function.comp_def] using hmapped
      | _ => cases hbc
    | _ => cases hac
  | array c ih =>
    refine merged?_assoc_of_form fun hdepth _ hac hbc => ?_
    cases a with
    | array a =>
      cases b with
      | array b =>
        cases hkey : node.bind Node.primaryKey? with
        | none => simp only [merged?_unkeyed hdepth hkey, Option.bind_some, combine_assoc]
        | some key =>
          refine keyed_assoc hdepth hkey ha hb hc fun x y z hx hy hz => ih z hz ?_ ?_ ?_
          · exact ((Mergeable.keyed_iff hkey).1 ha).2 x hx
          · exact ((Mergeable.keyed_iff hkey).1 hb).2 y hy
          · exact ((Mergeable.keyed_iff hkey).1 hc).2 z hz
      | _ => cases hbc
    | _ => cases hac
  | bool | int | float | string =>
    refine merged?_assoc_of_form fun hdepth hnull hac hbc => ?_
    have hascalar := isContainer_of_form_scalar hac
    have hbscalar := isContainer_of_form_scalar hbc
    have hbnull := ne_null_of_form (show b.form = .scalar from hbc) (by decide)
    simp only [merged?_scalar hdepth hascalar hbscalar hbnull, merged?_scalar hdepth hascalar rfl
      hnull, merged?_scalar hdepth hbscalar rfl hnull, Option.bind_some]

/-! ### Lists of documents -/

theorem foldlM_mergeable {documents : List Document}
    (hdocuments : ∀ document ∈ documents, Mergeable node document)
    {base result : Document} (hbase : Mergeable node base)
    (h : documents.foldlM (merged? options depth node) base = some result) :
    Mergeable node result := by
  induction documents generalizing base with
  | nil =>
    cases h
    exact hbase
  | cons document rest ih =>
    rw [List.forall_mem_cons] at hdocuments
    obtain ⟨merged, hmerged, hrest⟩ := Option.bind_eq_some_iff.1 h
    exact ih hdocuments.2 (hbase.merged? hdocuments.1 hmerged) hrest

/-- Merging a list of documents into a base is merging the merged list into it. -/
theorem foldlM_merged? {base : Document} {documents : List Document} (hbase : Mergeable node base)
    (hdocuments : ∀ document ∈ documents, Mergeable node document) :
    documents.foldlM (merged? options 0 node) base =
      (documents.foldlM (merged? options 0 node) .null).bind (merged? options 0 node base) := by
  have hroot : 0 ≤ options.maxDepth := Nat.zero_le _
  induction documents generalizing base with
  | nil => exact (merged?_null_right hroot base).symm
  | cons document rest ih =>
    rw [List.forall_mem_cons] at hdocuments
    obtain ⟨hdocument, hrest⟩ := hdocuments
    calc (document :: rest).foldlM (merged? options 0 node) base
        = (merged? options 0 node base document).bind fun merged =>
          rest.foldlM (merged? options 0 node) merged := List.foldlM_cons
      _ = (merged? options 0 node base document).bind fun merged =>
            (rest.foldlM (merged? options 0 node) .null).bind (merged? options 0 node merged) :=
          Option.bind_congr fun merged hmerged => ih (hbase.merged? hdocument hmerged) hrest
      _ = (rest.foldlM (merged? options 0 node) .null).bind fun last =>
            (merged? options 0 node base document).bind (merged? options 0 node · last) :=
              Option.bind_comm _ _
      _ = (rest.foldlM (merged? options 0 node) .null).bind fun last =>
            (merged? options 0 node document last).bind (merged? options 0 node base) :=
          Option.bind_congr fun last hlast =>
            merged?_assoc hbase hdocument (foldlM_mergeable hrest .null hlast)
      _ = (rest.foldlM (merged? options 0 node) document).bind (merged? options 0 node base) := by
          rw [ih hdocument hrest, Option.bind_assoc]
      _ = ((document :: rest).foldlM (merged? options 0 node) .null).bind
            (merged? options 0 node base) := by
          rw [List.foldlM_cons, merged?_null_left hroot]
          rfl

theorem toOption_mergeAll (documents : List Document) :
    (mergeAll options node documents).toOption =
      documents.foldlM (merged? options 0 node) .null := by
  unfold mergeAll
  generalize Document.null = base
  induction documents generalizing base with
  | nil => rfl
  | cons document rest ih =>
    rw [List.foldlM_cons, List.foldlM_cons, toOption_bind]
    exact Option.bind_congr fun merged _ => ih merged

/-- However a list of mergeable documents is cut in two, merging it at once and merging the
merged parts give the same document or both fail. In particular three mergeable documents
may be grouped either way. -/
theorem mergeAll_append_and_merge_assoc (options : MergeOptions) (node : Option Node) :
    (∀ xs ys : List Document, (∀ x ∈ xs, Mergeable node x) → (∀ y ∈ ys, Mergeable node y) →
      ∀ result, mergeAll options node (xs ++ ys) = .ok result ↔
        (do
          let x ← mergeAll options node xs
          let y ← mergeAll options node ys
          merge options node x y) = .ok result) ∧
    ∀ a b c : Document, Mergeable node a → Mergeable node b → Mergeable node c →
      ∀ result, (do
          let ab ← merge options node a b
          merge options node ab c) = .ok result ↔
        (do
          let bc ← merge options node b c
          merge options node a bc) = .ok result := by
  constructor
  · intro xs ys hxs hys result
    have hsame : (xs ++ ys).foldlM (merged? options 0 node) .null =
        (xs.foldlM (merged? options 0 node) .null).bind fun x =>
          (ys.foldlM (merged? options 0 node) .null).bind (merged? options 0 node x) := by
      rw [List.foldlM_append]
      exact Option.bind_congr fun x hx => foldlM_merged? (foldlM_mergeable hxs .null hx) hys
    rw [← toOption_eq_some, ← toOption_eq_some, toOption_bind, toOption_mergeAll, hsame]
    simp only [toOption_bind, toOption_mergeAll]
    rfl
  · intro a b c ha hb hc result
    have hsame : (merged? options 0 node a b).bind (merged? options 0 node · c) =
        (merged? options 0 node b c).bind (merged? options 0 node a) := merged?_assoc ha hb hc
    rw [← toOption_eq_some, ← toOption_eq_some, toOption_bind, toOption_bind]
    exact iff_of_eq (congrArg (· = some result) hsame)

def hostsNode : Node :=
  .list .empty (some (.dict .empty (some [
    ("name", .str .empty ⟨none, none, none, none, none, none⟩)]) none (some true)))
    ⟨some "name", none, none⟩

def host (name : String) (port : Int) : Document :=
  .object [("name", .string name), ("port", .int port)]

theorem mergeable_hosts {hosts : List (String × Int)}
    (hnodup : (hosts.map fun entry => (string entry.1).compact).Nodup) :
    Mergeable (some hostsNode) (.array (hosts.map fun entry => host entry.1 entry.2)) := by
  have hset : ∀ entry : String × Int, (host entry.1 entry.2).getSet? "name" =
      some (.string entry.1) := fun _ => rfl
  have hkeys : DistinctKeys "name" (hosts.map fun entry => host entry.1 entry.2) := by
    constructor
    · rw [List.forall_mem_map]
      intro entry _ value hvalue
      cases (hset entry).symm.trans hvalue
      rfl
    · rw [List.filterMap_map]
      simpa only [Function.comp_def, identity?, hset, Option.map_some,
        List.filterMap_eq_map'] using hnodup
  refine (Mergeable.keyed_iff rfl).2 ⟨hkeys, ?_⟩
  rw [List.forall_mem_map]
  intro entry _
  refine Mergeable.object_iff.2 ⟨by simp, ?_⟩
  simp only [List.forall_mem_cons]
  exact ⟨⟨trivial, .scalar rfl⟩, ⟨trivial, .scalar rfl⟩, by simp⟩

/-- Two lists of hosts, the second of which moves one host to another port and adds one, and a
third that moves it again. -/
theorem mergeAll_append_hosts : ∃ result moved,
    mergeAll .standard (some hostsNode) ([.array [host "a" 1, host "b" 2]] ++
      [.array [host "b" 3, host "c" 4]]) = .ok result ∧
    (do
      let x ← mergeAll .standard (some hostsNode) [.array [host "a" 1, host "b" 2]]
      let y ← mergeAll .standard (some hostsNode) [.array [host "b" 3, host "c" 4]]
      merge .standard (some hostsNode) x y) = .ok result ∧
    (do
      let ab ← merge .standard (some hostsNode) (.array [host "a" 1, host "b" 2])
        (.array [host "b" 3, host "c" 4])
      merge .standard (some hostsNode) ab (.array [host "b" 5])) = .ok moved ∧
    (do
      let bc ← merge .standard (some hostsNode) (.array [host "b" 3, host "c" 4])
        (.array [host "b" 5])
      merge .standard (some hostsNode) (.array [host "a" 1, host "b" 2]) bc) = .ok moved := by
  have hfirst : Mergeable (some hostsNode) (.array [host "a" 1, host "b" 2]) :=
    @mergeable_hosts [("a", 1), ("b", 2)] (by decide +kernel)
  have hsecond : Mergeable (some hostsNode) (.array [host "b" 3, host "c" 4]) :=
    @mergeable_hosts [("b", 3), ("c", 4)] (by decide +kernel)
  have hthird : Mergeable (some hostsNode) (.array [host "b" 5]) :=
    @mergeable_hosts [("b", 5)] (by decide +kernel)
  have hresult : mergeAll .standard (some hostsNode) ([.array [host "a" 1, host "b" 2]] ++
        [.array [host "b" 3, host "c" 4]]) =
      .ok (.array [host "a" 1, host "b" 3, host "c" 4]) := by
    rw [← toOption_eq_some]
    decide +kernel
  have hmoved : (do
      let ab ← merge .standard (some hostsNode) (.array [host "a" 1, host "b" 2])
        (.array [host "b" 3, host "c" 4])
      merge .standard (some hostsNode) ab (.array [host "b" 5])) =
        .ok (.array [host "a" 1, host "b" 5, host "c" 4]) := by
    rw [← toOption_eq_some]
    decide +kernel
  obtain ⟨happend, hassoc⟩ := mergeAll_append_and_merge_assoc .standard (some hostsNode)
  refine ⟨_, _, hresult, ?_, hmoved, ?_⟩
  · exact (happend _ _ (by simpa using hfirst) (by simpa using hsecond) _).1 hresult
  · exact (hassoc _ _ _ hfirst hsecond hthird _).1 hmoved

end Document

end DataSchema
