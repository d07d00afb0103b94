import Mathlib.Data.List.Nodup
import DataSchema.Proofs.Base

/-!
# Entries and well-formed documents

Entries are a map as long as their keys are pairwise different. Inserting keeps the keys different
and adds no entry but the given one.
-/

namespace DataSchema

namespace Entries

variable {α β : Type} {entries : Entries α} {key : String} {value : α}

theorem mem_of_lookup (h : entries.lookup key = some value) : (key, value) ∈ entries := by
  obtain ⟨before, after, rfl, -⟩ := List.lookup_eq_some_iff.1 h
  simp

theorem lookup_eq_none_iff : entries.lookup key = none ↔ key ∉ entries.map Prod.fst := by
  rw [List.lookup_eq_none_iff, List.mem_map, not_exists]
  refine forall_congr' fun entry => ?_
  rw [not_and, bne_iff_ne, ne_comm]

theorem lookup_of_mem (hnodup : (entries.map Prod.fst).Nodup) (h : (key, value) ∈ entries) :
    entries.lookup key = some value := by
  induction entries with
  | nil => simp at h
  | cons entry rest ih =>
    rw [List.map_cons, List.nodup_cons] at hnodup
    rcases List.mem_cons.1 h with rfl | hrest
    · rw [List.lookup_cons_self]
    · have hne : key ≠ entry.1 := fun heq => hnodup.1 (heq ▸ List.mem_map_of_mem hrest)
      rw [List.lookup_cons, beq_false_of_ne hne]
      exact ih hnodup.2 hrest

theorem exists_of_lookup (hnodup : (entries.map Prod.fst).Nodup)
    (h : entries.lookup key = some value) :
    ∃ before after, entries = before ++ (key, value) :: after ∧
      (∀ entry ∈ before, entry.1 ≠ key) ∧ ∀ entry ∈ after, entry.1 ≠ key := by
  obtain ⟨before, after, rfl, -⟩ := List.lookup_eq_some_iff.1 h
  rw [List.map_append, List.map_cons, List.nodup_middle, List.nodup_cons, List.mem_append,
    not_or] at hnodup
  exact ⟨before, after, rfl, fun entry hentry heq =>
    hnodup.1.1 (List.mem_map.2 ⟨entry, hentry, heq⟩),
    fun entry hentry heq => hnodup.1.2 (List.mem_map.2 ⟨entry, hentry, heq⟩)⟩

/-- Entries with the same keys in the same order are equal when the values
that are looked up are. -/
theorem eq_of_lookup {xs ys : Entries α} (hnodup : (xs.map Prod.fst).Nodup)
    (hnames : xs.map Prod.fst = ys.map Prod.fst) (h : ∀ key, xs.lookup key = ys.lookup key) :
    xs = ys := by
  induction xs generalizing ys with
  | nil => exact (List.map_eq_nil_iff.1 hnames.symm).symm
  | cons entry rest ih =>
    cases ys with
    | nil => cases hnames
    | cons entry' rest' =>
      obtain ⟨key, value⟩ := entry
      obtain ⟨key', value'⟩ := entry'
      rw [List.map_cons, List.map_cons, List.cons.injEq] at hnames
      obtain ⟨hkey, hrest⟩ := hnames
      dsimp only at hkey
      subst hkey
      rw [List.map_cons, List.nodup_cons] at hnodup
      have hvalue := h key
      rw [List.lookup_cons_self, List.lookup_cons_self, Option.some.injEq] at hvalue
      have hsame : rest = rest' := by
        refine ih hnodup.2 hrest fun other => ?_
        by_cases heq : other = key
        · subst heq
          rw [lookup_eq_none_iff.2 hnodup.1, lookup_eq_none_iff.2 (hrest ▸ hnodup.1)]
        · have hother := h other
          rwa [List.lookup_cons, List.lookup_cons, beq_false_of_ne heq] at hother
      rw [hvalue, hsame]

theorem lookup_perm {xs ys : Entries α} (hnodup : (xs.map Prod.fst).Nodup) (h : xs.Perm ys)
    (key : String) :
    xs.lookup key = ys.lookup key := by
  cases hlookup : xs.lookup key with
  | some value =>
    have hnodup' : (ys.map Prod.fst).Nodup := (h.map Prod.fst).nodup_iff.1 hnodup
    exact (lookup_of_mem hnodup' (h.mem_iff.1 (mem_of_lookup hlookup))).symm
  | none =>
    exact (lookup_eq_none_iff.2 (mt (h.map Prod.fst).mem_iff.2 (lookup_eq_none_iff.1 hlookup))).symm

theorem rel_lookup {r : α → β → Prop} {xs : Entries α} {ys : Entries β}
    (h : List.Forall₂ (fun x y => x.1 = y.1 ∧ r x.2 y.2) xs ys) (key : String) :
    Option.Rel r (xs.lookup key) (ys.lookup key) := by
  induction h with
  | nil => exact .none
  | @cons x y _ _ hfirst _ ih =>
    obtain ⟨k, a⟩ := x
    obtain ⟨k', b⟩ := y
    obtain ⟨rfl, hvalue⟩ := hfirst
    rw [List.lookup_cons, List.lookup_cons]
    cases key == k with
    | true => exact .some hvalue
    | false => exact ih

theorem forall₂_of_keys_values {r : α → β → Prop} {xs : Entries α}
    {ys : Entries β} (hkeys : xs.map Prod.fst = ys.map Prod.fst)
    (hvalues : List.Forall₂ r (xs.map Prod.snd) (ys.map Prod.snd)) :
    List.Forall₂ (fun x y => x.1 = y.1 ∧ r x.2 y.2) xs ys := by
  have hkeys' : List.Forall₂ (fun x y => x.1 = y.1) xs ys := by
    rwa [← List.forall₂_eq_eq_eq, List.forall₂_map_left_iff, List.forall₂_map_right_iff] at hkeys
  rw [List.forall₂_map_left_iff, List.forall₂_map_right_iff] at hvalues
  exact List.Forall₂.mp (fun _ _ => And.intro) hkeys' hvalues

theorem map_fst_eq_of_forall₂ {r : α → β → Prop} {xs : Entries α} {ys : Entries β}
    (h : List.Forall₂ (fun x y => x.1 = y.1 ∧ r x.2 y.2) xs ys) :
    ys.map Prod.fst = xs.map Prod.fst := by
  induction h with
  | nil => rfl
  | cons hfirst _ ih => rw [List.map_cons, List.map_cons, hfirst.1, ih]

theorem lookup_map (f : String → α → β) (entries : Entries α) (key : String) :
    (entries.map fun entry => (entry.1, f entry.1 entry.2)).lookup key =
      (entries.lookup key).map (f key) := by
  induction entries with
  | nil => rfl
  | cons entry rest ih =>
    rw [List.map_cons, List.lookup_cons, List.lookup_cons, ih]
    by_cases heq : key = entry.1
    · rw [heq, beq_self_eq_true]
      rfl
    · rw [beq_false_of_ne heq]

theorem insert_of_not_mem (h : key ∉ entries.map Prod.fst) :
    entries.insert key value = entries ++ [(key, value)] := by
  induction entries with
  | nil => rfl
  | cons entry rest ih =>
    rw [List.map_cons, List.mem_cons, not_or] at h
    rw [insert, if_neg (Ne.symm h.1), ih h.2]
    rfl

theorem map_fst_insert_of_mem (h : key ∈ entries.map Prod.fst) :
    (entries.insert key value).map Prod.fst = entries.map Prod.fst := by
  induction entries with
  | nil => simp at h
  | cons entry rest ih =>
    rw [insert]
    split
    · rename_i heq
      simp [heq]
    · rename_i hne
      rw [List.map_cons, List.mem_cons] at h
      rw [List.map_cons, List.map_cons, ih (h.resolve_left (Ne.symm hne))]

theorem lookup_insert_self (entries : Entries α) (key : String) (value : α) :
    (entries.insert key value).lookup key = some value := by
  induction entries with
  | nil => exact List.lookup_cons_self
  | cons entry rest ih =>
    rw [insert]
    split
    · exact List.lookup_cons_self
    · rename_i hne
      rw [List.lookup_cons, beq_false_of_ne (Ne.symm hne)]
      exact ih

theorem insert_of_lookup (h : entries.lookup key = some value) :
    entries.insert key value = entries := by
  induction entries with
  | nil => cases h
  | cons entry rest ih =>
    rw [insert]
    split
    · rename_i heq
      subst heq
      rw [List.lookup_cons_self] at h
      cases h
      rfl
    · rename_i hne
      rw [List.lookup_cons, beq_false_of_ne (Ne.symm hne)] at h
      rw [ih h]

theorem lookup_insert_of_ne {other : String} (h : other ≠ key) :
    (entries.insert key value).lookup other = entries.lookup other := by
  induction entries with
  | nil => rw [insert, List.lookup_cons, beq_false_of_ne h]
  | cons entry rest ih =>
    rw [insert]
    split
    · rename_i heq
      rw [List.lookup_cons, List.lookup_cons, heq]
      simp only [beq_false_of_ne h]
    · rw [List.lookup_cons, List.lookup_cons, ih]

theorem nodup_insert (hnodup : (entries.map Prod.fst).Nodup) :
    ((entries.insert key value).map Prod.fst).Nodup := by
  by_cases hmem : key ∈ entries.map Prod.fst
  · rw [map_fst_insert_of_mem hmem]
    exact hnodup
  · rw [insert_of_not_mem hmem, List.map_append, List.nodup_append]
    refine ⟨hnodup, by simp, fun k hk l hl heq => hmem ?_⟩
    rw [heq, List.mem_singleton.1 hl] at hk
    exact hk

theorem mem_insert {entry : String × α} (h : entry ∈ entries.insert key value) :
    entry = (key, value) ∨ entry ∈ entries := by
  induction entries with
  | nil => exact .inl (List.mem_singleton.1 h)
  | cons first rest ih =>
    rw [insert] at h
    split at h
    · rcases List.mem_cons.1 h with rfl | hrest
      · exact .inl rfl
      · exact .inr (List.mem_cons_of_mem _ hrest)
    · rcases List.mem_cons.1 h with rfl | hrest
      · exact .inr List.mem_cons_self
      · exact (ih hrest).imp_right (List.mem_cons_of_mem _)

end Entries

namespace Document

theorem isNull_eq_false {value : Document} : value.isNull = false ↔ value ≠ .null := by
  cases value <;> simp [isNull]

theorem getSet?_eq_some {document value : Document} {key : String} :
    document.getSet? key = some value ↔ document.get? key = some value ∧ value ≠ .null := by
  simp only [getSet?, Option.filter_eq_some_iff, Bool.not_eq_true', isNull_eq_false]

theorem wellFormed_array {elements : List Document} :
    (array elements).WellFormed ↔ ∀ element ∈ elements, element.WellFormed := by
  rw [WellFormed]
  induction elements with
  | nil => simp [WellFormedElements]
  | cons element rest ih => rw [WellFormedElements, ih, List.forall_mem_cons]

theorem wellFormed_object {entries : Entries Document} :
    (object entries).WellFormed ↔ (entries.map Prod.fst).Nodup ∧ ∀ entry ∈ entries,
      entry.2.WellFormed := by
  have hvalues : WellFormedEntries entries ↔ ∀ entry ∈ entries, entry.2.WellFormed := by
    induction entries with
    | nil => simp [WellFormedEntries]
    | cons entry rest ih => rw [WellFormedEntries, ih, List.forall_mem_cons]
  rw [WellFormed, hvalues]

end Document

end DataSchema
