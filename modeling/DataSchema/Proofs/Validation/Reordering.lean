import Mathlib.Data.List.Perm.Basic
import DataSchema.Proofs.Validation.Unset
import DataSchema.Proofs.Validation.Walk

/-!
# The order of the keys of an instance

Validation meets the keys of an object in the order of the instance, apart from the static keys.
Another order of the same entries, at any depth, gives the same findings in another order, as far as
their places, categories and messages go; the offending values may be reordered objects themselves.
Repeated primary keys are compared by their texts, which show the order of keys, so it matters that
elements are told apart by scalars.
-/

namespace DataSchema

open Validation

/-- The documents differ at most in the order of the entries of their objects, at any depth. -/
inductive Document.Reordered : Document → Document → Prop
  | refl (value : Document) : Reordered value value
  | array {elements elements' : List Document} (h : List.Forall₂ Reordered elements elements') :
      Reordered (.array elements) (.array elements')
  | object {entries changed permuted : Entries Document}
      (hkeys : entries.map Prod.fst = changed.map Prod.fst)
      (hvalues : List.Forall₂ Reordered (entries.map Prod.snd) (changed.map Prod.snd))
      (hpermuted : changed.Perm permuted) :
      Reordered (.object entries) (.object permuted)

namespace Document.Reordered

variable {value value' : Document}

theorem shape_eq (h : value.Reordered value') : value'.shape = value.shape := by
  cases h <;> rfl

theorem isNull_eq (h : value.Reordered value') : value'.isNull = value.isNull := by
  cases h <;> rfl

theorem ne_null (h : value.Reordered value') (hnull : value ≠ .null) : value' ≠ .null := by
  rwa [← isNull_eq_false, h.isNull_eq, isNull_eq_false]

theorem admits_eq (h : value.Reordered value') (kind : Kind) :
    kind.admits value' = kind.admits value := by
  cases h <;> cases kind <;> rfl

theorem eq_of_scalar (h : value.Reordered value') (hscalar : value.shape.isContainer = false) :
    value' = value := by
  cases h with
  | refl => rfl
  | array | object => cases hscalar

theorem rel_lookup {entries entries' : Entries Document}
    (h : (Document.object entries).Reordered (.object entries'))
    (hnodup : (entries.map Prod.fst).Nodup) (key : String) :
    Option.Rel Reordered (entries.lookup key) (entries'.lookup key) := by
  cases h with
  | refl =>
    cases entries.lookup key with
    | none => exact .none
    | some value => exact .some (.refl value)
  | object hkeys hvalues hpermuted =>
    rw [← Entries.lookup_perm (hkeys ▸ hnodup) hpermuted key]
    exact Entries.rel_lookup (Entries.forall₂_of_keys_values hkeys hvalues) key

theorem getSet?_eq {key : String} (h : value.Reordered value') (hvalue : value.WellFormed)
    (hscalar : ∀ held, value.getSet? key = some held → held.shape.isContainer = false) :
    value'.getSet? key = value.getSet? key := by
  cases value with
  | object entries =>
    cases value' with
    | object entries' =>
      have hlookup := h.rel_lookup (Document.wellFormed_object.1 hvalue).1 key
      rw [getSet?, getSet?, get?, get?]
      cases hheld : entries.lookup key with
      | none =>
        have hheld' : entries'.lookup key = none := eq_none_of_rel_none (hheld ▸ hlookup)
        rw [hheld']
      | some held =>
        obtain ⟨held', hheld', hreordered⟩ := exists_of_rel_some (hheld ▸ hlookup)
        rw [hheld', Option.filter_some, Option.filter_some, hreordered.isNull_eq]
        by_cases hnull : held = .null
        · rw [hnull]
          rfl
        · have hset : (Document.object entries).getSet? key = some held :=
            getSet?_eq_some.2 ⟨hheld, hnull⟩
          rw [hreordered.eq_of_scalar (hscalar held hset)]
    | _ => cases h
  | _ => cases h <;> rfl

end Document.Reordered

/-! ### Findings without their offending values -/

theorem Finding.report_wrongKind (kind : Kind) {value value' : Document}
    (h : value'.shape = value.shape) :
    (here (.wrongKind kind value')).report = (here (.wrongKind kind value)).report :=
  congrArg (fun shape : Shape =>
    (([] : Path), Category.typeMismatch,
      s!"Invalid type '{shape.name}'. Expected a '{kind.name}'")) h

namespace Validation

open scoped List

/-- What two lists of findings report is the same up to its order. -/
def SameReports (findings findings' : List Finding) : Prop :=
  findings.map Finding.report ~ findings'.map Finding.report

namespace SameReports

variable {findings findings' more more' : List Finding}

theorem refl (findings : List Finding) : SameReports findings findings := List.Perm.refl _

theorem trans {findings'' : List Finding} (h : SameReports findings findings')
    (h' : SameReports findings' findings'') :
    SameReports findings findings'' := List.Perm.trans h h'

theorem of_perm (h : findings ~ findings') : SameReports findings findings' := h.map _

theorem append (h : SameReports findings findings') (hmore : SameReports more more') :
    SameReports (findings ++ more) (findings' ++ more') := by
  rw [SameReports, List.map_append, List.map_append]
  exact List.Perm.append h hmore

theorem map_below (segment : Segment) (h : SameReports findings findings') :
    SameReports (findings.map (Finding.below segment)) (findings'.map (Finding.below segment)) := by
  have hbelow : Finding.report ∘ Finding.below segment =
      (fun report => (segment :: report.1, report.2)) ∘ Finding.report := rfl
  rw [SameReports, List.map_map, List.map_map, hbelow, ← List.map_map, ← List.map_map]
  exact List.Perm.map _ h

theorem flatMap {α β : Type} {related : α → β → Prop} {list : List α} {list' : List β}
    {f : α → List Finding} {g : β → List Finding} (hlist : List.Forall₂ related list list')
    (h : ∀ a ∈ list, ∀ b, related a b → SameReports (f a) (g b)) :
    SameReports (list.flatMap f) (list'.flatMap g) := by
  induction hlist with
  | nil => exact refl _
  | @cons a b rest rest' hab _ ih =>
    rw [List.forall_mem_cons] at h
    rw [List.flatMap_cons, List.flatMap_cons]
    exact (h.1 b hab).append (ih h.2)

end SameReports

variable {value value' : Document}

theorem sameReports_staticKey {required : Option String} {check : Node → Document → List Finding}
    {entries entries' : Entries Document} {declared : String × Node}
    (h : Option.Rel Document.Reordered (entries.lookup declared.1) (entries'.lookup declared.1))
    (hcheck : ∀ inner inner', entries.lookup declared.1 = some inner → inner.Reordered inner' →
      SameReports (check declared.2 inner) (check declared.2 inner')) :
    SameReports (ofStaticKey required check entries declared)
      (ofStaticKey required check entries' declared) := by
  obtain ⟨key, node⟩ := declared
  cases hlookup : entries.lookup key with
  | none =>
    have hlookup' : entries'.lookup key = none := eq_none_of_rel_none (hlookup ▸ h)
    have hsame : entries.lookup key = entries'.lookup key := by rw [hlookup, hlookup']
    rw [ofStaticKey_congr (congrArg _ hsame)]
    exact .refl _
  | some inner =>
    obtain ⟨inner', hlookup', hreordered⟩ := exists_of_rel_some (hlookup ▸ h)
    cases hnull : inner.isNull with
    | true =>
      have hscalar : inner.shape.isContainer = false := by
        cases inner <;> first | rfl | cases hnull
      have hsame : entries.lookup key = entries'.lookup key := by
        rw [hlookup, hlookup', hreordered.eq_of_scalar hscalar]
      rw [ofStaticKey_congr (congrArg _ hsame)]
      exact .refl _
    | false =>
      rw [ofStaticKey_of_lookup hlookup hnull,
        ofStaticKey_of_lookup hlookup' (hreordered.isNull_eq.trans hnull)]
      exact (hcheck inner inner' hlookup hreordered).map_below _

/-- That a key is unknown is reported without the value under it. -/
theorem sameReports_unknownKey (declared : List String) (allowOtherKeys : Bool) (key : String)
    (value value' : Document) :
    SameReports (unknownKey declared allowOtherKeys key value)
      (unknownKey declared allowOtherKeys key value') := by
  unfold unknownKey
  split
  · exact .refl _
  · have hreport : (⟨[.key key],
          .unknownKey key (Suggestion.closest? declared key) value'⟩ : Finding).report =
        (⟨[.key key], .unknownKey key (Suggestion.closest? declared key)
          value⟩ : Finding).report := by
      cases Suggestion.closest? declared key <;> rfl
    rw [SameReports, List.map_singleton, List.map_singleton, hreport]

theorem sameReports_otherKey {declared : List String}
    {check : Option (Document → List Finding)} {allowOtherKeys : Bool} {key : String}
    (hcheck : ∀ inner ∈ check, key ∉ declared → SameReports (inner value) (inner value')) :
    SameReports (ofOtherKey declared check allowOtherKeys (key, value))
      (ofOtherKey declared check allowOtherKeys (key, value')) := by
  by_cases hdeclared : key ∈ declared
  · rw [ofOtherKey_of_mem hdeclared, ofOtherKey_of_mem hdeclared]
    exact .refl _
  · cases check with
    | some inner =>
      rw [ofOtherKey_some hdeclared, ofOtherKey_some hdeclared]
      exact (hcheck inner rfl hdeclared).map_below _
    | none =>
      rw [ofOtherKey.eq_def, ofOtherKey.eq_def, if_neg (by simpa using hdeclared),
        if_neg (by simpa using hdeclared)]
      exact sameReports_unknownKey declared allowOtherKeys key value value'

theorem sameReports_elements {primaryKey : Option String} {check : Document → List Finding}
    {values values' : List Document} (hvalues : List.Forall₂ Document.Reordered values values')
    (h : ∀ value ∈ values, ∀ value', value.Reordered value' →
      SameReports (check value) (check value') ∧ ∀ key ∈ primaryKey, value'.getSet? key =
        value.getSet? key) (index : Nat) (seen : Seen) :
    SameReports (elements primaryKey check index seen values)
      (elements primaryKey check index seen values') := by
  induction hvalues generalizing index seen with
  | nil => exact .refl _
  | @cons value value' rest rest' hfirst _ ih =>
    rw [List.forall_mem_cons] at h
    obtain ⟨hcheck, hkey⟩ := h.1 value' hfirst
    rw [elements, elements, repetition_congr hkey, remember_congr hkey]
    exact ((hcheck.map_below _).append (.refl _)).append (ih h.2 _ _)

end Validation

namespace Node

variable {rules : Rules} {depth : Nat} {required : Option String} {node : Node}
  {value value' : Document}

/-- Where the value is not looked into, its shape is all that is reported. -/
theorem sameReports_of_admits (h : value.Reordered value')
    (hlooked : depth ≤ rules.maxDepth → node.kind.admits value = true →
      SameReports (node.findings rules depth required value)
        (node.findings rules depth required value')) :
    SameReports (node.findings rules depth required value)
      (node.findings rules depth required value') := by
  by_cases hnull : value = .null
  · subst hnull
    rw [h.eq_of_scalar rfl]
    exact .refl _
  by_cases hdepth : depth ≤ rules.maxDepth
  · cases hkind : node.kind.admits value with
    | true => exact hlooked hdepth hkind
    | false =>
      have hkind' : node.kind.admits value' = false := (h.admits_eq node.kind).trans hkind
      rw [findings_wrongKind hdepth hnull hkind, findings_wrongKind hdepth (h.ne_null hnull) hkind',
        SameReports, List.map_singleton, List.map_singleton,
        Finding.report_wrongKind node.kind h.shape_eq]
  · rw [Nat.not_le] at hdepth
    rw [findings_tooDeep hdepth hnull, findings_tooDeep hdepth (h.ne_null hnull)]
    exact .refl _

theorem sameReports_dict {a : Attributes} {keys : Option (List (String × Node))}
    {dynamicKeys : Option Node} {other : Option Bool}
    {entries entries' : Entries Document} (hdepth : depth ≤ rules.maxDepth)
    (hkeys : ((keys.getD []).map Prod.fst).Nodup) (hentries : (entries.map Prod.fst).Nodup)
    (h : (Document.object entries).Reordered (.object entries'))
    (hbelow : ∀ key child inner inner', (dict a keys dynamicKeys other).child? key = some child →
      entries.lookup key = some inner →
      inner.Reordered inner' →
      SameReports (child.findings rules (depth + 1) none inner)
        (child.findings rules (depth + 1) none inner')) :
    SameReports ((dict a keys dynamicKeys other).findings rules depth required (.object entries))
      ((dict a keys dynamicKeys other).findings rules depth required (.object entries')) := by
  have hstatic : ∀ declared ∈ keys.getD [],
      SameReports (ofStaticKey required (findings rules (depth + 1) none) entries declared)
        (ofStaticKey required (findings rules (depth + 1) none) entries' declared) := by
    intro declared hdeclared
    apply sameReports_staticKey (h.rel_lookup hentries declared.1)
    intro inner inner' hlookup hreordered
    exact hbelow declared.1 declared.2 inner inner' (child?_of_mem hkeys hdeclared)
      hlookup hreordered
  have hother : ∀ entry ∈ entries, ∀ value', entry.2.Reordered value' → SameReports
      (ofOtherKey ((keys.getD []).map Prod.fst) (dynamicKeys.map (findings rules (depth + 1) none))
        (other.getD false) entry)
      (ofOtherKey ((keys.getD []).map Prod.fst) (dynamicKeys.map (findings rules (depth + 1) none))
        (other.getD false)
        (entry.1, value')) := by
    intro entry hentry value' hreordered
    apply sameReports_otherKey
    intro check hcheck hnot
    obtain ⟨child, hchild, rfl⟩ := Option.map_eq_some_iff.1 hcheck
    exact hbelow entry.1 child entry.2 value' ((child?_of_not_mem hnot).trans hchild)
      (Entries.lookup_of_mem hentries hentry)
      hreordered
  rw [findings_dict hdepth, findings_dict hdepth, otherEntries_eq_flatMap, otherEntries_eq_flatMap]
  refine SameReports.append (.flatMap (List.forall₂_same.2 fun _ _ => rfl) ?_) ?_
  · rintro declared hdeclared _ rfl
    exact hstatic declared hdeclared
  · cases h with
    | refl => exact .refl _
    | object hnames hvalues hpermuted =>
      refine (SameReports.flatMap (Entries.forall₂_of_keys_values hnames hvalues) ?_).trans
        (.of_perm (hpermuted.flatMap_right _))
      rintro entry hentry ⟨_, value'⟩ ⟨rfl, hreordered⟩
      exact hother entry hentry value' hreordered

theorem sameReports_list {a : Attributes} {items : Option Node} {c : ListConstraints}
    {values values' : List Document} (hdepth : depth ≤ rules.maxDepth)
    (h : List.Forall₂ Document.Reordered values values')
    (hvalues : ∀ value ∈ values, value.WellFormed)
    (hkeys : ScalarKeyed (list a items c) (.array values))
    (hbelow : ∀ item ∈ items, ∀ value ∈ values, ∀ value', value.Reordered value' →
      SameReports (item.findings rules (depth + 1) c.primaryKey value)
        (item.findings rules (depth + 1) c.primaryKey value')) :
    SameReports ((list a items c).findings rules depth required (.array values))
      ((list a items c).findings rules depth required (.array values')) := by
  rw [findings_list hdepth, findings_list hdepth, ← h.length_eq]
  refine SameReports.append (.refl _) (sameReports_elements h ?_ 0 [])
  intro value hvalue value' hreordered
  constructor
  · cases items with
    | none => exact .refl _
    | some item =>
      rw [ofElement, ofElement, element, element, hreordered.isNull_eq]
      cases hnull : value.isNull with
      | true =>
        rw [if_pos rfl, if_pos rfl, SameReports, List.map_singleton, List.map_singleton,
          Finding.report_wrongKind item.kind hreordered.shape_eq]
      | false => exact hbelow item rfl value hvalue value' hreordered
  · intro key hkey
    exact hreordered.getSet?_eq (hvalues value hvalue)
      (hkeys [] _ key values rfl hkey rfl value hvalue)

theorem sameReports_findings (hnode : node.WellFormed) (hvalue : value.WellFormed)
    (hkeys : ScalarKeyed node value) (h : value.Reordered value') :
    SameReports (node.findings rules depth required value)
      (node.findings rules depth required value') := by
  induction node generalizing value value' depth required with
  | str | int | bool =>
    refine sameReports_of_admits h fun _ hkind => ?_
    have hscalar : value.shape.isContainer = false := by
      cases value <;> first | rfl | cases hkind
    rw [h.eq_of_scalar hscalar]
    exact .refl _
  | dict a keys dynamicKeys other ihkeys ihdynamic =>
    refine sameReports_of_admits h fun hdepth hkind => ?_
    obtain ⟨entries, rfl⟩ := Kind.admits_dict.1 hkind
    obtain ⟨entries', rfl⟩ := Kind.admits_dict.1 ((h.admits_eq .dict).trans hkind)
    obtain ⟨hentries, hvalues⟩ := Document.wellFormed_object.1 hvalue
    have hchildren := fun key child => @hnode.child? key child
    cases hnode with
    | dict hnames =>
      refine sameReports_dict hdepth hnames hentries h
        fun key child inner inner' hchild hlookup hreordered => ?_
      have hinner := hvalues _ (Entries.mem_of_lookup hlookup)
      rcases child?_eq_some hchild with hmem | ⟨-, hmem⟩
      · exact ihkeys _ hmem (hchildren key child hchild) hinner
          (hkeys.child? hchild hlookup) hreordered
      · exact ihdynamic child hmem (hchildren key child hchild) hinner
          (hkeys.child? hchild hlookup) hreordered
  | list a items c ih =>
    refine sameReports_of_admits h fun hdepth hkind => ?_
    obtain ⟨values, rfl⟩ := Kind.admits_list.1 hkind
    have hvalues := Document.wellFormed_array.1 hvalue
    cases h with
    | refl => exact .refl _
    | array helements =>
      cases hnode with
      | list hitems =>
        refine sameReports_list hdepth helements hvalues hkeys
          fun item hitem value hmem value' hreordered => ?_
        obtain ⟨position, hposition⟩ := List.mem_iff_getElem?.1 hmem
        exact ih item hitem (hitems item hitem) (hvalues value hmem)
          (hkeys.items? hitem hposition) hreordered

end Node

/-- The order of the keys of an instance does not matter: reordered at any depth, it has
the same findings, counted with their places, categories and messages, and so it is
valid when the instance is. -/
theorem WellLoaded.validate_reordered {schema : Schema} {value value' : Document}
    (h : WellLoaded schema) (hvalue : value.WellFormed) (hkeys : ScalarKeyed schema.root value)
    (hreordered : value.Reordered value') :
    ((schema.validate value).map Finding.report).Perm
      ((schema.validate value').map Finding.report) ∧
    schema.isValid value = schema.isValid value' := by
  have hreports : SameReports (schema.validate value) (schema.validate value') :=
    Node.sameReports_findings h.root_wellFormed hvalue hkeys hreordered
  have hlength := hreports.length_eq
  rw [List.length_map, List.length_map] at hlength
  refine ⟨hreports, Bool.eq_iff_iff.2 ?_⟩
  rw [Schema.isValid, Schema.isValid, Schema.isValidAt_iff, Schema.isValidAt_iff,
    ← List.length_eq_zero_iff, ← List.length_eq_zero_iff]
  exact iff_of_eq (congrArg (· = 0) hlength)

def strayRow : Entries Document := [("x", .int 2), ("id", .int 1), ("y", .null)]

/-- Within the row the two keys are reported in the order of their entries. -/
theorem WellLoaded.validate_reordered_rows : ∃ schema, WellLoaded schema ∧
    ScalarKeyed schema.root (.array [.object strayRow]) ∧
    (Document.array [.object strayRow]).Reordered (.array [.object strayRow.reverse]) ∧
    (schema.validate (.array [.object strayRow])).map Finding.path =
      [[.index 0, .key "x"], [.index 0, .key "y"]] ∧
    (schema.validate (.array [.object strayRow.reverse])).map Finding.path =
      [[.index 0, .key "y"], [.index 0, .key "x"]] ∧
    ((schema.validate (.array [.object strayRow])).map Finding.report).Perm
      ((schema.validate (.array [.object strayRow.reverse])).map Finding.report) ∧
    schema.isValid (.array [.object strayRow]) =
      schema.isValid (.array [.object strayRow.reverse]) := by
  have hdocument : notedRows.WellFormed := by
    simp [notedRows, Document.WellFormed, Document.WellFormedEntries]
  have hrow : (Document.array [.object strayRow]).WellFormed := by
    simp [strayRow, Document.WellFormed, Document.WellFormedEntries, Document.WellFormedElements]
  have hrun : (Loader.standard.load notedRows).toOption.any (fun schema =>
      (schema.validate (.array [.object strayRow])).map Finding.path ==
        [[.index 0, .key "x"], [.index 0, .key "y"]] &&
      (schema.validate (.array [.object strayRow.reverse])).map Finding.path ==
        [[.index 0, .key "y"], [.index 0, .key "x"]]) = true := by decide +kernel
  obtain ⟨schema, hload, htest⟩ := exists_ok_of_any hrun
  rw [Bool.and_eq_true, beq_iff_eq, beq_iff_eq] at htest
  have hloaded : WellLoaded schema := .of_standard hdocument hload
  have hkeys : ScalarKeyed schema.root (.array ([strayRow].map Document.object)) := by
    apply ScalarKeyed.of_rows
    rw [List.forall_mem_singleton]
    decide
  have hreordered : (Document.array [.object strayRow]).Reordered
      (.array [.object strayRow.reverse]) :=
    .array (.cons (.object rfl (List.forall₂_same.2 fun value _ => .refl value)
      (List.reverse_perm strayRow).symm) .nil)
  obtain ⟨hreports, hverdict⟩ := hloaded.validate_reordered hrow hkeys hreordered
  exact ⟨schema, hloaded, hkeys, hreordered, htest.1, htest.2, hreports, hverdict⟩

end DataSchema
