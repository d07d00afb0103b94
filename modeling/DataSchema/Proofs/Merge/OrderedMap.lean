import Mathlib.Data.Finset.Card
import Mathlib.Data.Finset.SDiff
import Mathlib.Data.List.Forall2
import DataSchema.Proofs.Merge.Grouping

/-!
# Keyed lists merge as ordered maps

Each element of a merged keyed list is gathered from a group: an element of one of the two
lists that comes first with its identity, or has none, and the elements of the overlay with the
same identity that follow it. Only the first element of a group keeps its place, the others are
laid over it from left to right; this does not depend on what becomes of the value that
identifies it. The groups of the base stand at the places of the base, whatever the overlay
holds, and the others behind them.
-/

namespace DataSchema

namespace Merge

def valuesOf (key : String) (slots : List Slot) : List Document :=
  (slots.filter fun slot => slot.1 = some key).map Prod.snd

/-- What is laid over a slot of the base: all values of the overlay with its tag, if the
tag was not seen before. -/
def valuesFor (overlay : List Slot) (seen : List String) : Option String → List Document
  | none => []
  | some key => if key ∈ seen then [] else valuesOf key overlay

/-- The slots of a base and what is laid over each. -/
def targets (overlay : List Slot) (seen : List String) : List Slot → List (Document × List Document)
  | [] => []
  | (tag, value) :: rest =>
    (value, valuesFor overlay seen tag) :: targets overlay (seen ++ tag.toList) rest

/-- The slots of an overlay that have no tag or one that was not seen before, and what is laid over
each: the later values with its tag. -/
def newcomers (seen : List String) : List Slot → List (Document × List Document)
  | [] => []
  | (none, value) :: rest => (value, []) :: newcomers seen rest
  | (some key, value) :: rest =>
    if key ∈ seen then newcomers seen rest
    else (value, valuesOf key rest) :: newcomers (seen ++ [key]) rest

def groups (base overlay : List Slot) : List (Document × List Document) :=
  targets overlay [] base ++ newcomers (tags base) overlay

section

variable {key : String} {value current : Document} {slot : Slot}
  {overlay overlay' before after rest base : List Slot} {seen : List String}

theorem valuesOf_cons_self :
    valuesOf key ((some key, value) :: rest) = value :: valuesOf key rest := by
  simp [valuesOf]

theorem valuesOf_cons_of_ne (hne : slot.1 ≠ some key) :
    valuesOf key (slot :: rest) = valuesOf key rest := by
  rw [valuesOf, List.filter_cons_of_neg (by simpa using hne), valuesOf]

theorem valuesOf_eq_nil (h : key ∉ tags overlay) : valuesOf key overlay = [] := by
  induction overlay with
  | nil => rfl
  | cons slot rest ih =>
    obtain ⟨hne, hrest⟩ := not_mem_tags_cons.1 h
    rw [valuesOf_cons_of_ne hne, ih hrest]

/-! ### The groups of the base -/

theorem tags_cons (slot : Slot) (slots : List Slot) :
    tags (slot :: slots) = slot.1.toList ++ tags slots := by
  obtain ⟨tag, value⟩ := slot
  cases tag <;> rfl

theorem targets_append : targets overlay seen (before ++ after) =
    targets overlay seen before ++ targets overlay (seen ++ tags before) after := by
  induction before generalizing seen with
  | nil => simp [targets, tags]
  | cons slot rest ih =>
    rw [List.cons_append, targets, targets, ih, tags_cons, List.append_assoc, List.cons_append]

theorem length_targets (overlay : List Slot) (seen : List String) (base : List Slot) :
    (targets overlay seen base).length = base.length := by
  induction base generalizing seen with
  | nil => rfl
  | cons slot rest ih => rw [targets, List.length_cons, List.length_cons, ih]

/-- Only the values at the tags of the base matter, and not at those that were seen. -/
theorem targets_congr
    (h : ∀ key ∈ tags base, key ∉ seen → valuesOf key overlay = valuesOf key overlay') :
    targets overlay seen base = targets overlay' seen base := by
  induction base generalizing seen with
  | nil => rfl
  | cons slot rest ih =>
    obtain ⟨tag, value⟩ := slot
    rw [tags_cons, List.forall_mem_append] at h
    have hrest : targets overlay (seen ++ tag.toList) rest =
        targets overlay' (seen ++ tag.toList) rest := by
      refine ih fun other hother hnot => h.2 other hother fun hseen => hnot ?_
      exact List.mem_append_left _ hseen
    have hvalues : valuesFor overlay seen tag = valuesFor overlay' seen tag := by
      cases tag with
      | none => rfl
      | some key =>
        by_cases hseen : key ∈ seen
        · rw [valuesFor, valuesFor, if_pos hseen, if_pos hseen]
        · rw [valuesFor, valuesFor, if_neg hseen, if_neg hseen, h.1 key (by simp) hseen]
    rw [targets, targets, hrest, hvalues]

theorem targets_cons (h : ∀ key, slot.1 = some key → key ∉ tags base ∨ key ∈ seen) :
    targets (slot :: rest) seen base = targets rest seen base := by
  refine targets_congr fun key hkey hnot => valuesOf_cons_of_ne fun htag => ?_
  rcases h key htag with habsent | hseen
  · exact habsent hkey
  · exact hnot hseen

theorem valuesFor_nil (seen : List String) (tag : Option String) : valuesFor [] seen tag = [] := by
  cases tag with
  | none => rfl
  | some key => exact ite_self _

theorem targets_nil (seen : List String) (base : List Slot) :
    targets [] seen base = base.map fun slot => (slot.2, []) := by
  induction base generalizing seen with
  | nil => rfl
  | cons slot rest ih => rw [targets, ih, valuesFor_nil, List.map_cons]

theorem getElem?_targets {place : Nat} {tag : Option String}
    (h : base[place]? = some (tag, value)) :
    (targets overlay seen base)[place]? =
      some (value, valuesFor overlay (seen ++ tags (base.take place)) tag) := by
  induction base generalizing seen place with
  | nil => cases h
  | cons slot rest ih =>
    cases place with
    | zero =>
      cases h
      rw [List.take_zero, show tags [] = [] from rfl, List.append_nil]
      rfl
    | succ place =>
      rw [List.getElem?_cons_succ] at h
      rw [List.take_succ_cons, tags_cons, targets, List.getElem?_cons_succ, ih h, List.append_assoc]

/-! ### What one slot of the overlay adds to the groups -/

theorem groups_append_none :
    groups (base ++ [(none, value)]) rest = groups base ((none, value) :: rest) := by
  have hbase : targets ((none, value) :: rest) [] base = targets rest [] base :=
    targets_cons (by simp)
  have htags : tags (base ++ [(none, value)]) = tags base := by simp [tags]
  rw [groups, groups, targets_append, hbase, newcomers, htags, List.append_assoc]
  rfl

theorem groups_append_some (h : key ∉ tags base) :
    groups (base ++ [(some key, value)]) rest = groups base ((some key, value) :: rest) := by
  have hbase : targets ((some key, value) :: rest) [] base = targets rest [] base :=
    targets_cons fun other heq => .inl (Option.some.inj heq ▸ h)
  have hvalues : valuesFor rest ([] ++ tags base) (some key) = valuesOf key rest := if_neg h
  rw [groups, groups, targets_append, hbase, newcomers, if_neg h, tags_append, List.append_assoc,
    targets, hvalues]
  rfl

theorem groups_eq_append (h : key ∉ tags before) :
    groups (before ++ (some key, current) :: after) overlay =
    targets overlay [] before ++ (current, valuesOf key overlay) ::
      (targets overlay (tags before ++ [key]) after ++
        newcomers (tags before ++ key :: tags after) overlay) := by
  have hvalues : valuesFor overlay (tags before) (some key) = valuesOf key overlay := if_neg h
  rw [groups, targets_append, List.nil_append, targets, hvalues, tags_append, tags_cons_some,
    List.append_assoc, List.cons_append]
  rfl

theorem groups_cons_of_mem (h : key ∉ tags before) :
    groups (before ++ (some key, current) :: after) ((some key, value) :: rest) =
      targets rest [] before ++ (current, value :: valuesOf key rest) ::
        (targets rest (tags before ++ [key]) after ++
          newcomers (tags before ++ key :: tags after) rest) := by
  have hbefore : targets ((some key, value) :: rest) [] before = targets rest [] before :=
    targets_cons fun other heq => .inl (Option.some.inj heq ▸ h)
  have hseen : key ∈ tags before ++ [key] := List.mem_append_right _ List.mem_cons_self
  have hafter : targets ((some key, value) :: rest) (tags before ++ [key]) after =
      targets rest (tags before ++ [key]) after :=
    targets_cons fun other heq => .inr (Option.some.inj heq ▸ hseen)
  rw [groups_eq_append h, hbefore, hafter, valuesOf_cons_self, newcomers, if_pos (by simp)]

/-! ### How many groups there are -/

theorem length_newcomers (seen : List String) (overlay : List Slot) :
    (newcomers seen overlay).length =
    (overlay.filter fun slot => slot.1 = none).length +
      ((tags overlay).toFinset \ seen.toFinset).card := by
  induction overlay generalizing seen with
  | nil => simp [newcomers, tags]
  | cons slot rest ih =>
    obtain ⟨tag, value⟩ := slot
    cases tag with
    | none =>
      rw [newcomers, List.length_cons, ih, tags_cons_none, List.filter_cons_of_pos (by simp),
        List.length_cons]
      omega
    | some key =>
      rw [newcomers, tags_cons_some, List.toFinset_cons, List.filter_cons_of_neg (by simp)]
      by_cases hseen : key ∈ seen
      · rw [if_pos hseen, ih, Finset.insert_sdiff_of_mem _ (List.mem_toFinset.2 hseen)]
      · have hnew : insert key (tags rest).toFinset \ seen.toFinset =
            insert key ((tags rest).toFinset \ (seen ++ [key]).toFinset) := by
          ext other
          by_cases heq : other = key
          · simp [heq, hseen]
          · simp [heq]
        rw [if_neg hseen, List.length_cons, ih, hnew, Finset.card_insert_of_notMem (by simp)]
        omega

end

/-! ### Every group is merged on its own -/

section

variable {combine : Document → Document → Option Document} {base overlay result : List Slot}

theorem forall₂_exchange {α β : Type} {r : α → β → Prop} {a a' : α}
    (h : ∀ b, r a b → r a' b) {before after : List α} {values : List β}
    (hall : List.Forall₂ r (before ++ a :: after) values) :
    List.Forall₂ r (before ++ a' :: after) values := by
  induction before generalizing values with
  | nil =>
    cases hall with
    | cons hfirst hrest => exact .cons (h _ hfirst) hrest
  | cons first rest ih =>
    cases hall with
    | cons hfirst hrest => exact .cons hfirst (ih hrest)

/-- The values of the result are the groups, each combined from left to right. -/
theorem forall₂_groups (h : layAll (fun _ => combine) base overlay = some result) :
    List.Forall₂ (fun group value => group.2.foldlM combine group.1 =
      some value) (groups base overlay) (result.map Prod.snd) := by
  induction overlay generalizing base with
  | nil =>
    cases h
    rw [groups, targets_nil, newcomers, List.append_nil, List.forall₂_map_left_iff,
      List.forall₂_map_right_iff, List.forall₂_same]
    exact fun slot _ => rfl
  | cons slot rest ih =>
    obtain ⟨next, hnext, hrest⟩ := Option.bind_eq_some_iff.1 h
    obtain ⟨tag, value⟩ := slot
    cases tag with
    | none =>
      cases hnext
      rw [← groups_append_none]
      exact ih hrest
    | some key =>
      by_cases hmem : key ∈ tags base
      · -- The value goes over the first slot with its tag, which stays in front of its group.
        obtain ⟨before, current, after, rfl, hbefore⟩ := exists_eq_append hmem
        rw [lay_append hbefore] at hnext
        obtain ⟨merged, hmerged, rfl⟩ := Option.map_eq_some_iff.1 hnext
        have hgroups := ih hrest
        rw [groups_eq_append hbefore] at hgroups
        rw [groups_cons_of_mem hbefore]
        refine forall₂_exchange (fun found hfound => ?_) hgroups
        rw [List.foldlM_cons, hmerged]
        exact hfound
      · rw [lay_of_not_mem hmem] at hnext
        cases hnext
        rw [← groups_append_some hmem]
        exact ih hrest

end

/-- A list of slots is laid over another as over an ordered map. -/
structure LaidAsMap (merge : Document → Document → Except MergeError Document)
    (base overlay : List Slot) (merged : List Document) : Prop where
  /-- An element of the base stays as it is unless it is the first with its tag and
  the overlay has this tag. -/
  kept : ∀ place tag value, base[place]? = some (tag, value) →
    (∀ key, tag = some key → key ∈ tags (base.take place) ∨ key ∉ tags overlay) →
      merged[place]? = some value
  /-- Over the first element of the base with a tag, all elements of the overlay with this tag are
  laid from left to right. -/
  laid : ∀ place key value, base[place]? = some (some key, value) → key ∉ tags (base.take place) →
    key ∈ tags overlay →
    ∃ result, merged[place]? = some result ∧ (valuesOf key overlay).foldlM merge value = .ok result
  /-- Behind the base stand the elements of the overlay without a tag and the first ones with a new
  tag, under the later ones with this tag. -/
  added : List.Forall₂ (fun group result => group.2.foldlM merge group.1 =
      .ok result) (newcomers (tags base) overlay)
    (merged.drop base.length)
  /-- Every element without a tag and every new tag adds one element. -/
  length : merged.length = base.length + (overlay.filter fun slot => slot.1 = none).length +
    ((tags overlay).toFinset \ (tags base).toFinset).card

theorem exists_of_forall₂ {α β : Type} {r : α → β → Prop} {xs : List α} {ys : List β}
    (h : List.Forall₂ r xs ys) {place : Nat} {x : α} (hx : xs[place]? = some x) :
    ∃ y, ys[place]? = some y ∧ r x y := by
  obtain ⟨hxs, rfl⟩ := List.getElem?_eq_some_iff.1 hx
  have hys : place < ys.length := h.length_eq ▸ hxs
  exact ⟨ys[place], List.getElem?_eq_getElem hys, h.get hxs hys⟩

theorem LaidAsMap.of_groups {merge : Document → Document → Except MergeError Document}
    {base overlay : List Slot} {merged : List Document}
    (h : List.Forall₂ (fun group result => group.2.foldlM merge group.1 =
      .ok result) (groups base overlay) merged) :
    LaidAsMap merge base overlay merged := by
  have hplace : ∀ {place : Nat} {tag : Option String} {value : Document},
      base[place]? = some (tag, value) →
      (groups base overlay)[place]? =
        some (value, valuesFor overlay (tags (base.take place)) tag) := by
    intro place tag value hvalue
    have hlt : place < (targets overlay [] base).length := by
      rw [length_targets]
      exact (List.getElem?_eq_some_iff.1 hvalue).1
    rw [groups, List.getElem?_append_left hlt, getElem?_targets hvalue, List.nil_append]
  constructor
  · intro place tag value hvalue hkept
    obtain ⟨result, hresult, hmerged⟩ := exists_of_forall₂ h (hplace hvalue)
    have hnothing : valuesFor overlay (tags (base.take place)) tag = [] := by
      cases tag with
      | none => rfl
      | some key =>
        rcases hkept key rfl with hseen | habsent
        · exact if_pos hseen
        · rw [valuesFor, valuesOf_eq_nil habsent, ite_self]
    rw [hnothing] at hmerged
    cases hmerged
    exact hresult
  · intro place key value hvalue hfirst _
    obtain ⟨result, hresult, hmerged⟩ := exists_of_forall₂ h (hplace hvalue)
    have hvalues : valuesFor overlay (tags (base.take place)) (some key) = valuesOf key overlay :=
      if_neg hfirst
    rw [hvalues] at hmerged
    exact ⟨result, hresult, hmerged⟩
  · have hadded := List.forall₂_drop base.length h
    rwa [groups, List.drop_left' (length_targets overlay [] base)] at hadded
  · rw [← h.length_eq, groups, List.length_append, length_targets, length_newcomers, Nat.add_assoc]

end Merge

namespace Document

open Merge

variable {options : MergeOptions} {depth : Nat} {node : Option Node}

theorem foldlM_mergeAt_eq_ok_iff {values : List Document} {value result : Document} :
    values.foldlM (mergeAt options depth node) value = .ok result ↔
      values.foldlM (merged? options depth node) value = some result := by
  induction values generalizing value with
  | nil => simp [pure, Except.pure]
  | cons first rest ih =>
    rw [List.foldlM_cons, List.foldlM_cons, bind_eq_ok, Option.bind_eq_bind,
      Option.bind_eq_some_iff]
    simp only [ih, merged?, toOption_eq_some]

/-- Keyed lists merge as ordered maps: whatever elements the two lists hold, with or without the key
and with keys that occur again, and whatever the strategy for other lists is. -/
theorem laidAsMap_of_mergeKeyed {key : String} {base overlay : List Document} {result : List Slot}
    (h : mergeKeyed options depth node key (slots key base) overlay = .ok result) :
    LaidAsMap (mergeAt options depth node) (slots key base) (slots key overlay)
      (result.map Prod.snd) := by
  have hlaid : layAll (fun _ => merged? options depth node) (slots key base) (slots key overlay) =
      some result := by
    rw [← toOption_mergeKeyed, h]
    rfl
  have hgroups := forall₂_groups hlaid
  simp only [← foldlM_mergeAt_eq_ok_iff] at hgroups
  exact .of_groups hgroups

/-- Hosts of which two have one name, and a number among them, under hosts of which some are new,
two have one name and one has none. -/
theorem laidAsMap_hosts : ∃ result,
    mergeKeyed .standard 1 hostsNode.items? "name"
      (slots "name" [host "a" 1, .int 5, host "b" 2, host "b" 9])
      [host "c" 1, host "b" 3, .object [("port", .int 0)], host "c" 2, host "b" 4] = .ok result ∧
    result.map Prod.snd = [host "a" 1, .int 5, host "b" 4, host "b" 9, host "c" 2,
      .object [("port", .int 0)]] ∧
    LaidAsMap (mergeAt .standard 1 hostsNode.items?)
      (slots "name" [host "a" 1, .int 5, host "b" 2, host "b" 9])
      (slots "name" [host "c" 1, host "b" 3, .object [("port", .int 0)], host "c" 2, host "b" 4])
      (result.map Prod.snd) := by
  have hrun : (mergeKeyed .standard 1 hostsNode.items? "name"
      (slots "name" [host "a" 1, .int 5, host "b" 2, host "b" 9])
      [host "c" 1, host "b" 3, .object [("port", .int 0)], host "c" 2, host "b" 4]).toOption.any
        (fun result => result.map Prod.snd = [host "a" 1, .int 5, host "b" 4, host "b" 9,
          host "c" 2, .object [("port", .int 0)]]) = true := by
    decide +kernel
  obtain ⟨result, hresult, hvalues⟩ := exists_ok_of_any hrun
  exact ⟨result, hresult, of_decide_eq_true hvalues, laidAsMap_of_mergeKeyed hresult⟩

end Document

end DataSchema
