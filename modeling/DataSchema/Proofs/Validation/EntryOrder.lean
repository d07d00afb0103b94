import Mathlib.Data.List.Perm.Basic
import DataSchema.Proofs.Node.WellFormed
import DataSchema.Proofs.Validation.Findings

/-!
# Findings of a dict in the order of the instance

Validation goes through the static keys of a dict first, in the order of their declaration, and then
through the remaining entries. Apart from that order, a dict has the findings of each entry with the
node that governs its key, and those of the keys that are not set. What goes through the entries of
an instance alone, as conversion does, is compared with validation in this form.
-/

namespace DataSchema

open Validation
open scoped List

/-! ### Two maps with common keys -/

namespace Entries

variable {α β γ : Type} {keys : Entries α} {entries : Entries β} {key : String}

/-- Going through the entries for one key finds the entry that is looked up. -/
theorem flatMap_if_eq (f : β → List γ) (hnodup : (entries.map Prod.fst).Nodup) (key : String) :
    (entries.flatMap fun entry => if entry.1 = key then f entry.2 else []) =
      (entries.lookup key).elim [] f := by
  have hnone : ∀ entries : Entries β, (∀ entry ∈ entries, entry.1 ≠ key) →
      (entries.flatMap fun entry => if entry.1 = key then f entry.2 else []) = [] := by
    intro entries hentries
    rw [List.flatMap_eq_nil_iff]
    exact fun entry hentry => if_neg (hentries entry hentry)
  cases hlookup : entries.lookup key with
  | none =>
    exact hnone entries fun entry hentry heq =>
      lookup_eq_none_iff.1 hlookup (List.mem_map.2 ⟨entry, hentry, heq⟩)
  | some value =>
    obtain ⟨before, after, rfl, hbefore, hafter⟩ := exists_of_lookup hnodup hlookup
    rw [List.flatMap_append, List.flatMap_cons, hnone before hbefore,
      hnone after hafter, if_pos rfl]
    simp

/-- What two maps have in common may be listed in the order of either. -/
theorem flatMap_lookup_perm (f : String → α → β → List γ) (hkeys : (keys.map Prod.fst).Nodup)
    (hentries : (entries.map Prod.fst).Nodup) :
    (keys.flatMap fun declared => (entries.lookup declared.1).elim []
        (f declared.1 declared.2)).Perm
      (entries.flatMap fun entry => (keys.lookup entry.1).elim [] fun a =>
        f entry.1 a entry.2) := by
  induction keys with
  | nil => simp
  | cons declared rest ih =>
    rw [List.map_cons, List.nodup_cons] at hkeys
    have hsplit : ∀ entry ∈ entries,
        (List.lookup entry.1 (declared :: rest)).elim [] (fun a => f entry.1 a entry.2) =
        (if entry.1 = declared.1 then f declared.1 declared.2 entry.2 else []) ++
          (rest.lookup entry.1).elim [] fun a => f entry.1 a entry.2 := by
      intro entry _
      rw [List.lookup_cons]
      by_cases heq : entry.1 = declared.1
      · have hrest : rest.lookup entry.1 = none := lookup_eq_none_iff.2 (heq ▸ hkeys.1)
        rw [if_pos heq, hrest, heq, beq_self_eq_true]
        exact (List.append_nil _).symm
      · rw [if_neg heq, beq_false_of_ne heq]
        rfl
    rw [List.flatMap_cons, List.flatMap_congr hsplit,
      ← flatMap_if_eq (f declared.1 declared.2) hentries]
    exact ((ih hkeys.2).append_left _).trans (List.flatMap_append_perm _ _ _)

end Entries

namespace Validation

def ofEntry (rules : Rules) (depth : Nat) (node : Node) (declared : List String)
    (allowOtherKeys : Bool) (entry : String × Document) : List Finding :=
  match node.child? entry.1 with
  | some child => underKey entry.1 (child.findings rules depth none entry.2)
  | none => unknownKey declared allowOtherKeys entry.1 entry.2

def ofUnsetKey (required : Option String) (entries : Entries Document) (declared : String × Node) :
    List Finding :=
  if ((entries.lookup declared.1).filter fun value => !value.isNull).isSome then []
  else if declared.2.isRequired || required == some declared.1 then
    [⟨[.key declared.1], .missingKey declared.1⟩]
  else []

theorem ofStaticKey_eq_append {required : Option String} {check : Node → Document → List Finding}
    {entries : Entries Document} (hnull : ∀ node, check node .null = [])
    (declared : String × Node) :
    ofStaticKey required check entries declared =
      (entries.lookup declared.1).elim [] (fun value =>
          underKey declared.1 (check declared.2 value)) ++
        ofUnsetKey required entries declared := by
  unfold ofStaticKey ofUnsetKey
  cases entries.lookup declared.1 with
  | none => rfl
  | some value =>
    by_cases hvalue : value = .null
    · rw [hvalue, Option.elim_some, hnull]
      rfl
    · rw [Option.filter_some, if_pos (by simp [Document.isNull_eq_false.2 hvalue])]
      exact (List.append_nil _).symm

theorem category_of_mem_ofUnsetKey {required : Option String}
    {entries : Entries Document} {declared : String × Node} {finding : Finding}
    (h : finding ∈ ofUnsetKey required entries declared) :
    finding.problem.category = .missingRequired := by
  unfold ofUnsetKey at h
  split at h
  · cases h
  · split at h
    · rw [List.mem_singleton.1 h]
      rfl
    · cases h

end Validation

/-- A dict has the findings of its entries and of the keys that are not set. -/
theorem Node.findings_dict_perm {rules : Rules} {depth : Nat} {required : Option String}
    {a : Attributes} {keys : Option (List (String × Node))} {dynamicKeys : Option Node}
    {other : Option Bool} {entries : Entries Document} (hdepth : depth ≤ rules.maxDepth)
    (hkeys : ((keys.getD []).map Prod.fst).Nodup) (hentries : (entries.map Prod.fst).Nodup) :
    ((dict a keys dynamicKeys other).findings rules depth required (.object entries)).Perm
      ((keys.getD []).flatMap (ofUnsetKey required entries) ++ entries.flatMap
        (ofEntry rules (depth + 1) (dict a keys dynamicKeys other) ((keys.getD []).map Prod.fst)
          (other.getD false))) := by
  have hentry : ∀ entry ∈ entries,
      ((keys.getD []).lookup entry.1).elim [] (fun node =>
          underKey entry.1 (node.findings rules (depth + 1) none entry.2)) ++
        ofOtherKey ((keys.getD []).map Prod.fst) (dynamicKeys.map (findings rules (depth + 1) none))
          (other.getD false) entry =
      ofEntry rules (depth + 1) (dict a keys dynamicKeys other) ((keys.getD []).map Prod.fst)
        (other.getD false) entry := by
    intro entry _
    rw [ofEntry, ofOtherKey.eq_def, List.contains_eq_mem]
    cases hstatic : (keys.getD []).lookup entry.1 with
    | some child =>
      have hmem := Entries.mem_of_lookup hstatic
      rw [child?_of_mem hkeys hmem, if_pos (decide_eq_true (List.mem_map.2 ⟨_, hmem, rfl⟩))]
      exact List.append_nil _
    | none =>
      have hnot := Entries.lookup_eq_none_iff.1 hstatic
      rw [child?_of_not_mem hnot, if_neg (by simpa using hnot)]
      cases dynamicKeys <;> rfl
  have hcommon := Entries.flatMap_lookup_perm
    (fun key (node : Node) value => underKey key (node.findings rules (depth + 1) none value))
      hkeys hentries
  rw [findings_dict hdepth, otherEntries_eq_flatMap, List.flatMap_congr fun declared _ =>
    ofStaticKey_eq_append (fun node => findings_null node) declared, ← List.flatMap_congr hentry]
  calc _
    _ ~ _ := ((List.flatMap_append_perm _ _ _).symm.trans List.perm_append_comm).append_right _
    _ ~ _ := (hcommon.append_left _).append_right _
    _ = _ := List.append_assoc ..
    _ ~ _ := (List.flatMap_append_perm _ _ _).append_left _

end DataSchema
