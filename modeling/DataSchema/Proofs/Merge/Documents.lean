import DataSchema.Proofs.Document.Entries
import DataSchema.Proofs.Merge.Slots

/-!
# Equations for merged documents

`merged?` is the result of a merge when errors are not told apart. It has one equation for each pair
of forms: null is neutral, scalars replace scalars, the entries of objects and the elements of keyed
lists are laid over each other as slots, other lists follow the strategy, and nothing else merges.
-/

namespace DataSchema

open Merge

namespace Merge

/-! ### Entries as slots -/

/-- The entries of an object as slots: their keys are the tags. -/
def entrySlots (entries : Entries Document) : List Slot :=
  entries.map fun entry => (some entry.1, entry.2)

theorem tags_entrySlots (entries : Entries Document) :
    tags (entrySlots entries) = entries.map Prod.fst := by
  rw [tags, entrySlots, List.filterMap_map]
  exact congrFun List.filterMap_eq_map' entries

theorem entrySlots_injective {xs ys : Entries Document} (h : entrySlots xs = entrySlots ys) :
    xs = ys := by
  have hinjective : ∀ x y : String × Document, ((some x.1, x.2) : Slot) = (some y.1, y.2) →
      x = y := by
    rintro ⟨_, _⟩ ⟨_, _⟩ ⟨⟩
    rfl
  exact (List.map_inj_right hinjective).1 h

theorem mem_entrySlots {entries : Entries Document} {key : String} {value : Document} :
    (some key, value) ∈ entrySlots entries ↔ (key, value) ∈ entries := by
  simp [entrySlots]

theorem held?_entrySlots (entries : Entries Document) (key : String) :
    held? key (entrySlots entries) = entries.lookup key := by
  induction entries with
  | nil => rfl
  | cons entry rest ih =>
    change (find? key ((some entry.1, entry.2) :: entrySlots rest)).map Prod.snd = _
    by_cases heq : entry.1 = key
    · subst heq
      rw [find?_cons_self, List.lookup_cons_self]
      rfl
    · rw [find?_cons_of_ne (by simpa using heq), Option.map_map, List.lookup_cons,
        beq_false_of_ne (Ne.symm heq)]
      exact ih

theorem exists_find?_of_lookup {entries : Entries Document} {key : String} {value : Document}
    (h : entries.lookup key = some value) :
    ∃ place, find? key (entrySlots entries) = some (place, value) := by
  obtain ⟨⟨place, found⟩, hfind, rfl⟩ :=
    Option.map_eq_some_iff.1 ((held?_entrySlots entries key).trans h)
  exact ⟨place, hfind⟩

section

variable {combine : String → Document → Document → Option Document}
  {base overlay entries : Entries Document} {key : String} {x y : Document}

theorem combined_lookup (hnodup : (overlay.map Prod.fst).Nodup)
    (h : layAll combine (entrySlots base) (entrySlots overlay) = some (entrySlots entries))
    (key : String) :
    Combined (fun x y merged => combine key x y = some merged) (base.lookup key)
      (overlay.lookup key) (entries.lookup key) := by
  rw [← tags_entrySlots] at hnodup
  simpa only [held?_entrySlots] using combined_layAll hnodup h key

theorem lookup_of_layAll (hnodup : (overlay.map Prod.fst).Nodup)
    (h : layAll combine (entrySlots base) (entrySlots overlay) = some (entrySlots entries))
    (hx : base.lookup key = some x) (hy : (key, y) ∈ overlay) :
    ∃ merged, combine key x y = some merged ∧ entries.lookup key = some merged := by
  have hcombined := combined_lookup hnodup h key
  rw [hx, Entries.lookup_of_mem hnodup hy] at hcombined
  generalize entries.lookup key = result at hcombined
  cases hcombined with
  | both hmerged => exact ⟨_, hmerged, rfl⟩

theorem lookup_of_layAll_of_not_mem (hnot : key ∉ overlay.map Prod.fst)
    (h : layAll combine (entrySlots base) (entrySlots overlay) = some (entrySlots entries))
    (hx : base.lookup key = some x) : entries.lookup key = some x := by
  rw [← tags_entrySlots] at hnot
  rw [← held?_entrySlots, held?, find?_layAll_of_not_mem hnot h]
  exact (held?_entrySlots base key).trans hx

end

theorem entrySlots_insert_of_mem {entries : Entries Document} {key : String}
    (h : key ∈ entries.map Prod.fst) (value : Document) :
    entrySlots (entries.insert key value) = replace key value (entrySlots entries) := by
  induction entries with
  | nil => simp at h
  | cons entry rest ih =>
    change entrySlots (Entries.insert (entry :: rest) key value) =
      replace key value ((some entry.1, entry.2) :: entrySlots rest)
    rw [Entries.insert, replace]
    by_cases heq : entry.1 = key
    · rw [if_pos heq, if_pos (congrArg some heq), heq]
      rfl
    · have hrest : key ∈ rest.map Prod.fst := (List.mem_cons.1 h).resolve_left (Ne.symm heq)
      rw [if_neg heq, if_neg (by simpa using heq), ← ih hrest]
      rfl

theorem tags_slots (key : String) (elements : List Document) :
    tags (slots key elements) = elements.filterMap (identity? key) := by
  rw [tags, slots, List.filterMap_map]
  rfl

theorem map_snd_slots (key : String) (elements : List Document) :
    (slots key elements).map Prod.snd = elements := by
  rw [slots, List.map_map]
  exact List.map_id elements

theorem identity?_of_mem_slots {key : String} {elements : List Document} {slot : Slot}
    (h : slot ∈ slots key elements) :
    identity? key slot.2 = slot.1 := by
  obtain ⟨element, -, rfl⟩ := List.mem_map.1 h
  rfl

theorem mem_of_mem_slots {key : String} {elements : List Document} {slot : Slot}
    (h : slot ∈ slots key elements) :
    slot.2 ∈ elements := by
  obtain ⟨element, hmem, rfl⟩ := List.mem_map.1 h
  exact hmem

end Merge

namespace Document

variable {options : MergeOptions} {depth : Nat} {node : Option Node}

/-- The merged document, if the merge succeeds. -/
def merged? (options : MergeOptions) (depth : Nat) (node : Option Node) (base overlay : Document) :
    Option Document :=
  (base.mergeAt options depth node overlay).toOption

/-! ### One equation for each pair of forms -/

theorem merged?_tooDeep (hdepth : options.maxDepth < depth) (base overlay : Document) :
    merged? options depth node base overlay = none := by
  rw [merged?, mergeAt.eq_def]
  cases overlay <;> simp only [if_pos hdepth] <;> rfl

theorem le_maxDepth_of_merged? {base overlay merged : Document}
    (h : merged? options depth node base overlay = some merged) :
    depth ≤ options.maxDepth := Nat.le_of_not_lt fun hdeep => by
  simp [merged?_tooDeep hdeep] at h

theorem merged?_null_right (hdepth : depth ≤ options.maxDepth) (base : Document) :
    merged? options depth node base .null = some base := by
  rw [merged?, mergeAt.eq_def]
  simp only [if_neg (Nat.not_lt.2 hdepth)]
  rfl

theorem merged?_null_left (hdepth : depth ≤ options.maxDepth) (overlay : Document) :
    merged? options depth node .null overlay = some overlay := by
  rw [merged?, mergeAt.eq_def]
  cases overlay <;> simp only [if_neg (Nat.not_lt.2 hdepth)] <;> rfl

theorem merged?_scalar (hdepth : depth ≤ options.maxDepth) {base overlay : Document}
    (hbase : base.shape.isContainer = false) (hoverlay : overlay.shape.isContainer = false)
    (hnull : overlay ≠ .null) :
    merged? options depth node base overlay = some overlay := by
  rw [merged?, mergeAt.eq_def]
  cases overlay <;> simp_all only [if_neg (Nat.not_lt.2 hdepth), ne_eq, not_true_eq_false, shape,
    Shape.isContainer, Bool.true_eq_false, Bool.false_eq_true, if_false, Except.toOption]

/-! ### Objects -/

/-- The entries of two objects merge as slots do. -/
theorem toOption_mergeEntries (base overlay : Entries Document) :
    (mergeEntries options depth node base overlay).toOption.map entrySlots =
      layAll (fun key => merged? options depth (node.bind (·.child? key))) (entrySlots base)
        (entrySlots overlay) := by
  induction overlay generalizing base with
  | nil =>
    rw [mergeEntries]
    rfl
  | cons entry rest ih =>
    obtain ⟨key, value⟩ := entry
    change _ = layAll _ (entrySlots base) ((some key, value) :: entrySlots rest)
    rw [mergeEntries, layAll_cons]
    cases hlookup : base.lookup key with
    | some current =>
      have hmem : key ∈ base.map Prod.fst :=
        List.mem_map_of_mem (f := Prod.fst) (Entries.mem_of_lookup hlookup)
      obtain ⟨place, hfind⟩ := exists_find?_of_lookup hlookup
      rw [lay_of_find? hfind, Option.bind_map]
      dsimp only
      rw [toOption_bind, toOption_mapError, Option.map_bind]
      refine Option.bind_congr fun merged _ => ?_
      rw [Function.comp_apply, ih, entrySlots_insert_of_mem hmem]
      rfl
    | none =>
      have hnot : key ∉ base.map Prod.fst := Entries.lookup_eq_none_iff.1 hlookup
      have hinsert : entrySlots (base.insert key value) =
          entrySlots base ++ [(some key, value)] := by
        rw [Entries.insert_of_not_mem hnot, entrySlots, List.map_append]
        rfl
      rw [lay_of_not_mem (tags_entrySlots base ▸ hnot), Option.bind_some, ← hinsert, ← ih]

theorem merged?_object (hdepth : depth ≤ options.maxDepth) (base overlay : Entries Document) :
    merged? options depth node (.object base) (.object overlay) =
      (mergeEntries options (depth + 1) node base overlay).toOption.map .object := by
  rw [merged?, mergeAt.eq_def]
  simp only [if_neg (Nat.not_lt.2 hdepth), toOption_bind]
  cases (mergeEntries options (depth + 1) node base overlay).toOption <;> rfl

theorem merged?_object_eq_some {base overlay : Entries Document} {merged : Document}
    (h : merged? options depth node (.object base) (.object overlay) = some merged) :
    ∃ entries, merged = .object entries ∧
      layAll (fun key => merged? options (depth + 1) (node.bind (·.child? key)))
      (entrySlots base) (entrySlots overlay) = some (entrySlots entries) := by
  rw [merged?_object (le_maxDepth_of_merged? h)] at h
  obtain ⟨entries, hentries, rfl⟩ := Option.map_eq_some_iff.1 h
  refine ⟨entries, rfl, ?_⟩
  rw [← toOption_mergeEntries, hentries]
  rfl

/-! ### Lists -/

theorem toOption_mergeKeyed (key : String) (base : List Slot) (overlay : List Document) :
    (mergeKeyed options depth node key base overlay).toOption =
      layAll (fun _ => merged? options depth node) base (slots key overlay) := by
  induction overlay generalizing base with
  | nil =>
    rw [mergeKeyed]
    rfl
  | cons element rest ih =>
    change _ = layAll _ base ((identity? key element, element) :: slots key rest)
    rw [mergeKeyed, layAll_cons]
    cases hidentity : identity? key element with
    | none => rw [lay, Option.bind_some, ih]
    | some identity =>
      rw [lay]
      dsimp only
      cases hfind : find? identity base with
      | none => rw [Option.bind_some, ih]
      | some found =>
        dsimp only
        rw [toOption_bind, toOption_mapError, Option.bind_map]
        exact Option.bind_congr fun merged _ => ih _

theorem merged?_keyed (hdepth : depth ≤ options.maxDepth) {key : String}
    (hkey : node.bind Node.primaryKey? = some key) (base overlay : List Document) :
    merged? options depth node (.array base) (.array overlay) =
      (layAll (fun _ => merged? options (depth + 1) (node.bind Node.items?)) (slots key base)
          (slots key overlay)).map
        fun merged => .array (merged.map Prod.snd) := by
  rw [merged?, mergeAt.eq_def, ← toOption_mergeKeyed]
  simp only [if_neg (Nat.not_lt.2 hdepth), hkey, toOption_bind]
  cases (mergeKeyed options (depth + 1) (node.bind Node.items?) key
    (slots key base) overlay).toOption <;> rfl

theorem merged?_unkeyed (hdepth : depth ≤ options.maxDepth)
    (hkey : node.bind Node.primaryKey? = none) (base overlay : List Document) :
    merged? options depth node (.array base) (.array overlay) =
      some (.array (options.strategy.combine base overlay)) := by
  rw [merged?, mergeAt.eq_def]
  simp only [if_neg (Nat.not_lt.2 hdepth), hkey]
  rfl

/-! ### Forms -/

/-- What merging tells apart. -/
inductive Form where
  | null | scalar | list | dict
deriving DecidableEq

def form : Document → Form
  | .null => .null
  | .array _ => .list
  | .object _ => .dict
  | _ => .scalar

theorem ne_null_of_form {x : Document} {form : Form} (h : x.form = form) (hform : form ≠ .null) :
    x ≠ .null := by
  rintro rfl
  exact hform h.symm

theorem isContainer_of_form_scalar {x : Document} (h : x.form = .scalar) :
    x.shape.isContainer = false := by
  cases x <;> first | rfl | cases h

theorem isContainer_eq_of_form_eq {x y : Document} (h : x.form = y.form) :
    x.shape.isContainer = y.shape.isContainer := by
  cases x <;> cases y <;> first | rfl | cases h

/-- Only documents of one form merge, null aside, and the result has that form. -/
theorem form_of_merged? {base overlay merged : Document}
    (h : merged? options depth node base overlay = some merged) (hbase : base ≠ .null)
    (hoverlay : overlay ≠ .null) : base.form = overlay.form ∧ merged.form = overlay.form := by
  have hdepth := le_maxDepth_of_merged? h
  cases overlay with
  | null => exact absurd rfl hoverlay
  | object overlay =>
    cases base with
    | null => exact absurd rfl hbase
    | object base =>
      rw [merged?_object hdepth] at h
      obtain ⟨entries, -, rfl⟩ := Option.map_eq_some_iff.1 h
      exact ⟨rfl, rfl⟩
    | _ => simp [merged?, mergeAt, Nat.not_lt.2 hdepth, Except.toOption] at h
  | array overlay =>
    cases base with
    | null => exact absurd rfl hbase
    | array base =>
      cases hkey : node.bind Node.primaryKey? with
      | none =>
        rw [merged?_unkeyed hdepth hkey] at h
        cases h
        exact ⟨rfl, rfl⟩
      | some key =>
        rw [merged?_keyed hdepth hkey] at h
        obtain ⟨slots, -, rfl⟩ := Option.map_eq_some_iff.1 h
        exact ⟨rfl, rfl⟩
    | _ => simp [merged?, mergeAt, Nat.not_lt.2 hdepth, Except.toOption] at h
  | bool | int | float | string =>
    cases base with
    | null => exact absurd rfl hbase
    | array | object =>
      simp [merged?, mergeAt, Nat.not_lt.2 hdepth, Except.toOption, shape, Shape.isContainer] at h
    | _ =>
      rw [merged?_scalar hdepth rfl rfl (by simp)] at h
      cases h
      exact ⟨rfl, rfl⟩

/-- What a merge consists of: it keeps one side, or lays entries or elements over each
other, or combines two lists. -/
inductive Merges (options : MergeOptions) (depth : Nat) (node : Option Node) :
    Document → Document → Document → Prop
  | base {base} : Merges options depth node base .null base
  | overlay {base overlay} : Merges options depth node base overlay overlay
  | objects {base overlay entries} (hlaid : layAll (fun key =>
        merged? options (depth + 1) (node.bind (·.child? key)))
      (entrySlots base) (entrySlots overlay) = some (entrySlots entries)) :
      Merges options depth node (.object base) (.object overlay) (.object entries)
  | keyed {key base overlay result} (hkey : node.bind Node.primaryKey? = some key)
      (hlaid : layAll (fun _ => merged? options (depth + 1) (node.bind Node.items?))
        (slots key base) (slots key overlay) =
        some result) : Merges options depth node (.array base) (.array overlay)
          (.array (result.map Prod.snd))
  | unkeyed {base overlay} (hkey : node.bind Node.primaryKey? = none) :
      Merges options depth node (.array base) (.array overlay)
        (.array (options.strategy.combine base overlay))

theorem merges_of_merged? {base overlay merged : Document}
    (h : merged? options depth node base overlay = some merged) :
    Merges options depth node base overlay merged := by
  have hdepth := le_maxDepth_of_merged? h
  by_cases hoverlay : overlay = .null
  · rw [hoverlay, merged?_null_right hdepth] at h
    cases h
    exact hoverlay ▸ .base
  by_cases hbase : base = .null
  · rw [hbase, merged?_null_left hdepth] at h
    cases h
    exact .overlay
  obtain ⟨hform, -⟩ := form_of_merged? h hbase hoverlay
  cases overlay with
  | null => exact absurd rfl hoverlay
  | object overlay =>
    cases base with
    | object base =>
      obtain ⟨entries, rfl, hlaid⟩ := merged?_object_eq_some h
      exact .objects hlaid
    | _ => cases hform
  | array overlay =>
    cases base with
    | array base =>
      cases hkey : node.bind Node.primaryKey? with
      | none =>
        rw [merged?_unkeyed hdepth hkey] at h
        cases h
        exact .unkeyed hkey
      | some key =>
        rw [merged?_keyed hdepth hkey] at h
        obtain ⟨result, hlaid, rfl⟩ := Option.map_eq_some_iff.1 h
        exact .keyed hkey hlaid
    | _ => cases hform
  | bool | int | float | string =>
    rw [merged?_scalar hdepth (isContainer_of_form_scalar hform) rfl hoverlay] at h
    cases h
    exact .overlay

end Document

end DataSchema
