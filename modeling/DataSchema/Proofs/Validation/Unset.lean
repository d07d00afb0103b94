import DataSchema.Proofs.Schema.WellFormed
import DataSchema.Proofs.Validation.Places
import DataSchema.Validation.Walk

/-!
# Keys that are set to null

Null means that a key is not set, so taking such an entry out of an object should make no
difference. It makes none where the key is described by the dict that governs the object, or where
the dict allows keys that it does not describe. Under any other key the entry is reported as
unknown, null or not, and taking it out takes exactly this finding away. That an element is told
apart by a scalar matters: the text of a primary key value shows the nulls inside.
-/

namespace DataSchema

open Validation

namespace Entries

variable {α : Type} {entries : Entries α} {name key : String} {value : α}

def remove (key : String) (entries : Entries α) : Entries α :=
  entries.filter fun entry => entry.1 != key

def modify (key : String) (change : α → α) (entries : Entries α) : Entries α :=
  entries.map fun entry => (entry.1, if entry.1 = key then change entry.2 else entry.2)

theorem remove_of_forall_ne (h : ∀ entry ∈ entries, entry.1 ≠ key) :
    entries.remove key = entries := by
  rw [remove, List.filter_eq_self]
  exact fun entry hmem => by simpa using h entry hmem

theorem lookup_remove_self : (entries.remove key).lookup key = none := by
  rw [lookup_eq_none_iff, remove]
  simp

theorem lookup_remove_of_ne (h : name ≠ key) :
    (entries.remove key).lookup name = entries.lookup name := by
  unfold remove
  induction entries with
  | nil => rfl
  | cons entry rest ih =>
    rw [List.filter_cons, List.lookup_cons]
    by_cases heq : entry.1 = key
    · rw [if_neg (by simp [heq]), ih, heq, beq_false_of_ne h]
    · rw [if_pos (by simp [heq]), List.lookup_cons, ih]

theorem lookup_modify_self {change : α → α} (h : entries.lookup key = some value) :
    (entries.modify key change).lookup key = some (change value) := by
  rw [modify, lookup_map fun k v => if k = key then change v else v, h, Option.map_some, if_pos rfl]

theorem lookup_modify_of_ne {change : α → α} (h : name ≠ key) :
    (entries.modify key change).lookup name = entries.lookup name := by
  rw [modify, lookup_map fun k v => if k = key then change v else v]
  simp only [if_neg h, Option.map_id']

end Entries

/-- The document without the entry of a key in the object at a path. -/
def Document.unset (key : String) : Path → Document → Document
  | [], .object entries => .object (Entries.remove key entries)
  | .key name :: rest, .object entries => .object (Entries.modify name (unset key rest) entries)
  | .index position :: rest, .array elements => .array (elements.modify position (unset key rest))
  | _, document => document

/-- Wherever a list with a primary key governs an array, the values under the key are scalars. -/
def ScalarKeyed (node : Node) (value : Document) : Prop :=
  ∀ path list key elements, node.governing? path = some list → list.primaryKey? = some key →
    value.atPath? path = some (.array elements) →
    ∀ element ∈ elements, ∀ held, element.getSet? key = some held → held.shape.isContainer = false

namespace ScalarKeyed

variable {node child : Node} {value inner : Document}

theorem child? {name : String} (h : ScalarKeyed node value) (hchild : node.child? name = some child)
    (hinner : value.get? name = some inner) : ScalarKeyed child inner := by
  intro path list key elements hlist hkey helements
  exact h (.key name :: path) list key elements
    (Option.bind_eq_some_iff.2 ⟨child, hchild, hlist⟩) hkey
    (Option.bind_eq_some_iff.2 ⟨inner, hinner, helements⟩)

theorem items? {position : Nat} {elements : List Document} (h : ScalarKeyed node (.array elements))
    (hchild : node.items? = some child) (hinner : elements[position]? = some inner) :
    ScalarKeyed child inner := by
  intro path list key elements hlist hkey helements
  exact h (.index position :: path) list key elements
    (Option.bind_eq_some_iff.2 ⟨child, hchild, hlist⟩) hkey
    (Option.bind_eq_some_iff.2 ⟨inner, hinner, helements⟩)

end ScalarKeyed

/-! ### One more block of findings -/

namespace Validation

variable {α β : Type} {extra list list' : List α}

/-- The second list is the first with `extra` put in at one place. -/
def Grows (extra list list' : List α) : Prop :=
  ∃ before after, list = before ++ after ∧ list' = before ++ extra ++ after

namespace Grows

theorem append_left (front : List α) (h : Grows extra list list') :
    Grows extra (front ++ list) (front ++ list') := by
  obtain ⟨before, after, rfl, rfl⟩ := h
  exact ⟨front ++ before, after, by simp, by simp⟩

theorem append_right (h : Grows extra list list') (back : List α) :
    Grows extra (list ++ back) (list' ++ back) := by
  obtain ⟨before, after, rfl, rfl⟩ := h
  exact ⟨before, after ++ back, by simp, by simp⟩

theorem map (f : α → β) (h : Grows extra list list') :
    Grows (extra.map f) (list.map f) (list'.map f) := by
  obtain ⟨before, after, rfl, rfl⟩ := h
  exact ⟨before.map f, after.map f, by simp, by simp⟩

theorem flatMap {f g : β → List α} {before after : List β} {b : β} (h : Grows extra (f b) (g b))
    (hbefore : ∀ other ∈ before, f other = g other) (hafter : ∀ other ∈ after, f other = g other) :
    Grows extra ((before ++ b :: after).flatMap f) ((before ++ b :: after).flatMap g) := by
  rw [List.flatMap_append, List.flatMap_append, List.flatMap_cons, List.flatMap_cons,
    List.flatMap_congr hbefore, List.flatMap_congr hafter]
  exact (h.append_right _).append_left _

theorem eq (h : Grows [] list list') : list = list' := by
  obtain ⟨before, after, rfl, rfl⟩ := h
  simp

end Grows

end Validation

/-! ### What is looked up in the document without the entry -/

namespace Document

variable {key name : String} {path : Path} {value : Document} {entries : Entries Document}

/-- Keys that are not set stay so, and the others keep their values. -/
theorem filter_lookup_remove (hnull : entries.lookup key = some .null) (name : String) :
    ((entries.remove key).lookup name).filter (fun value => !value.isNull) =
      (entries.lookup name).filter fun value => !value.isNull := by
  by_cases hname : name = key
  · rw [hname, Entries.lookup_remove_self, hnull]
    rfl
  · rw [Entries.lookup_remove_of_ne hname]

theorem isContainer_of_atPath? (h : value.atPath? path = some (.object entries)) :
    value.shape.isContainer = true := by
  cases path with
  | nil =>
    cases h
    rfl
  | cons segment rest =>
    cases segment with
    | key name =>
      obtain ⟨inner, hinner, -⟩ := Option.bind_eq_some_iff.1 h
      cases value <;> first | rfl | cases hinner
    | index position => cases value <;> first | rfl | cases h

theorem isNull_of_isContainer (h : value.shape.isContainer = true) : value.isNull = false := by
  cases value <;> first | rfl | cases h

theorem isNull_unset (key : String) (path : Path) (value : Document) :
    (value.unset key path).isNull = value.isNull := by
  unfold unset
  split <;> rfl

theorem getSet?_unset (hobject : value.atPath? path = some (.object entries))
    (hnull : entries.lookup key = some .null)
    (hscalar : ∀ held, value.getSet? name = some held → held.shape.isContainer = false) :
    (value.unset key path).getSet? name = value.getSet? name := by
  cases path with
  | nil =>
    cases hobject
    exact filter_lookup_remove hnull name
  | cons segment rest =>
    cases segment with
    | key step =>
      obtain ⟨inner, hinner, hrest⟩ := Option.bind_eq_some_iff.1 hobject
      cases value with
      | object outer =>
        have hcontainer := isContainer_of_atPath? hrest
        have hne : name ≠ step := by
          rintro rfl
          have hset : (object outer).getSet? name = some inner := by
            rw [getSet?, hinner, Option.filter_some, isNull_of_isContainer hcontainer]
            rfl
          rw [hscalar inner hset] at hcontainer
          cases hcontainer
        rw [getSet?, getSet?, unset, get?, get?, Entries.lookup_modify_of_ne hne]
      | _ => cases hinner
    | index position => cases value <;> rfl

end Document

/-! ### Findings without the entry -/

namespace Validation

variable {key : String} {entries : Entries Document}

theorem ofStaticKey_congr {required : Option String} {check : Node → Document → List Finding}
    {entries entries' : Entries Document} {declared : String × Node}
    (h : (entries.lookup declared.1).filter (fun value => !value.isNull) =
      (entries'.lookup declared.1).filter fun value => !value.isNull) :
    ofStaticKey required check entries declared = ofStaticKey required check entries' declared := by
  rw [ofStaticKey, ofStaticKey, h]

theorem ofStaticKey_of_lookup {required : Option String} {check : Node → Document → List Finding}
    {node : Node} {value : Document} (hlookup : entries.lookup key = some value)
    (hset : value.isNull = false) :
    ofStaticKey required check entries (key, node) = underKey key (check node value) := by
  rw [ofStaticKey, hlookup, Option.filter_some, hset]
  rfl

theorem ofOtherKey_of_mem {declared : List String} {check : Option (Document → List Finding)}
    {allowOtherKeys : Bool} {value : Document} (h : key ∈ declared) :
    ofOtherKey declared check allowOtherKeys (key, value) = [] := by
  rw [ofOtherKey.eq_def, if_pos (by simpa using h)]

theorem ofOtherKey_some {declared : List String} {check : Document → List Finding}
    {allowOtherKeys : Bool} {entry : String × Document} (h : entry.1 ∉ declared) :
    ofOtherKey declared (some check) allowOtherKeys entry = underKey entry.1 (check entry.2) := by
  rw [ofOtherKey.eq_def, if_neg (by simpa using h)]

/-- A change inside one element stays there, as long as the element keeps its
value under the primary key. -/
theorem Grows.elements {primaryKey : Option String} {check : Document → List Finding}
    {change : Document → Document} {extra : List Finding} {position index : Nat}
    {seen : Seen} {values : List Document} {value : Document}
    (hcheck : Grows extra (check (change value)) (check value))
    (hvalue : values[position]? = some value)
    (hkey : ∀ key ∈ primaryKey, (change value).getSet? key = value.getSet? key) :
    Grows (underIndex (index + position) extra)
      (elements primaryKey check index seen (values.modify position change))
      (elements primaryKey check index seen values) := by
  induction values generalizing position index seen with
  | nil => cases hvalue
  | cons first rest ih =>
    cases position with
    | zero =>
      cases hvalue
      rw [List.modify_zero_cons, Validation.elements, Validation.elements, repetition_congr hkey,
        remember_congr hkey]
      exact ((hcheck.map _).append_right _).append_right _
    | succ position =>
      rw [List.modify_succ_cons, Validation.elements, Validation.elements,
        ← Nat.succ_add_eq_add_succ]
      exact (ih hvalue).append_left _

end Validation

/-- What is found when an object holds null under the key. -/
def Node.findingsOfNull (key : String) : Node → List Finding
  | .dict _ keys dynamicKeys other =>
    if ((keys.getD []).map Prod.fst).contains key || dynamicKeys.isSome then []
    else unknownKey ((keys.getD []).map Prod.fst) (other.getD false) key .null
  | _ => []

namespace Applicable

variable {rules : Rules} {depth : Nat} {required : Option String} {node : Node} {value : Document}
  {path : Path} {key : String} {a : Attributes} {keys : Option (List (String × Node))}
  {dynamicKeys : Option Node} {other : Option Bool} {entries : Entries Document}

theorem ofOtherKey_null :
    ofOtherKey ((keys.getD []).map Prod.fst) (dynamicKeys.map (Node.findings rules depth none))
    (other.getD false) (key, .null) = (Node.dict a keys dynamicKeys other).findingsOfNull key := by
  rw [ofOtherKey.eq_def, Node.findingsOfNull]
  cases ((keys.getD []).map Prod.fst).contains key with
  | true => rfl
  | false =>
    cases dynamicKeys with
    | none => rfl
    | some node => exact congrArg (underKey key) (Node.findings_null node)

theorem grows_findings_remove (hdepth : depth ≤ rules.maxDepth)
    (hnodup : (entries.map Prod.fst).Nodup) (hnull : entries.lookup key = some .null) :
    Grows ((Node.dict a keys dynamicKeys other).findingsOfNull key)
      ((Node.dict a keys dynamicKeys other).findings rules depth required
        (.object (entries.remove key)))
      ((Node.dict a keys dynamicKeys other).findings rules depth required (.object entries)) := by
  have hstatic : ∀ declared ∈ keys.getD [],
      ofStaticKey required (Node.findings rules (depth + 1) none) (entries.remove key) declared =
        ofStaticKey required (Node.findings rules (depth + 1) none) entries declared :=
    fun declared _ => ofStaticKey_congr (Document.filter_lookup_remove hnull declared.1)
  rw [Node.findings_dict hdepth, Node.findings_dict hdepth, List.flatMap_congr hstatic,
    otherEntries_eq_flatMap, otherEntries_eq_flatMap]
  refine Grows.append_left _ ?_
  obtain ⟨before, after, rfl, hbefore, hafter⟩ := Entries.exists_of_lookup hnodup hnull
  have hremoved : Entries.remove key (before ++ (key, .null) :: after) = before ++ after := by
    rw [Entries.remove, List.filter_append, List.filter_cons_of_neg (by simp)]
    exact congrArg₂ _ (Entries.remove_of_forall_ne hbefore) (Entries.remove_of_forall_ne hafter)
  rw [hremoved, List.flatMap_append, List.flatMap_append, List.flatMap_cons,
    ofOtherKey_null (a := a)]
  exact ⟨_, _, rfl, (List.append_assoc ..).symm⟩

section

variable {name : String} {child : Node} {inner : Document} {change : Document → Document}
  {extra : List Finding}

theorem grows_staticKeys (hkeys : ((keys.getD []).map Prod.fst).Nodup)
    (hmem : (name, child) ∈ keys.getD []) (hinner : entries.lookup name = some inner)
    (hset : inner.isNull = false) (hchange : (change inner).isNull = false)
    (hbelow : Grows extra (child.findings rules depth none (change inner))
      (child.findings rules depth none inner)) :
    Grows (underKey name extra)
      ((keys.getD []).flatMap (ofStaticKey required (Node.findings rules depth none)
        (entries.modify name change)))
      ((keys.getD []).flatMap (ofStaticKey required (Node.findings rules depth none) entries)) := by
  have hsame : ∀ declared : String × Node, declared.1 ≠ name →
      ofStaticKey required (Node.findings rules depth none) (entries.modify name change) declared =
        ofStaticKey required (Node.findings rules depth none) entries declared :=
    fun declared hne => ofStaticKey_congr (by rw [Entries.lookup_modify_of_ne hne])
  obtain ⟨before, after, hsplit, hbefore, hafter⟩ :=
    Entries.exists_of_lookup hkeys (Entries.lookup_of_mem hkeys hmem)
  rw [hsplit]
  refine Grows.flatMap ?_ (fun declared hdeclared => hsame declared (hbefore declared hdeclared))
    (fun declared hdeclared => hsame declared (hafter declared hdeclared))
  rw [ofStaticKey_of_lookup hinner hset,
    ofStaticKey_of_lookup (Entries.lookup_modify_self hinner) hchange]
  exact hbelow.map _

theorem grows_otherKeys (hnodup : (entries.map Prod.fst).Nodup)
    (hnot : name ∉ (keys.getD []).map Prod.fst) (hinner : entries.lookup name = some inner)
    (hbelow : Grows extra (child.findings rules depth none (change inner))
      (child.findings rules depth none inner)) :
    Grows (underKey name extra)
      ((entries.modify name change).flatMap (ofOtherKey ((keys.getD []).map Prod.fst)
        (some (child.findings rules depth none)) (other.getD false)))
      (entries.flatMap (ofOtherKey ((keys.getD []).map Prod.fst)
        (some (child.findings rules depth none)) (other.getD false))) := by
  obtain ⟨before, after, rfl, hbefore, hafter⟩ := Entries.exists_of_lookup hnodup hinner
  rw [Entries.modify, List.flatMap_map]
  refine Grows.flatMap ?_ (fun entry hentry => by rw [if_neg (hbefore entry hentry)])
    (fun entry hentry => by rw [if_neg (hafter entry hentry)])
  rw [if_pos rfl, ofOtherKey_some hnot, ofOtherKey_some hnot]
  exact hbelow.map _

theorem grows_findings_modify (hdepth : depth ≤ rules.maxDepth)
    (hkeys : ((keys.getD []).map Prod.fst).Nodup) (hnodup : (entries.map Prod.fst).Nodup)
    (hchild : (Node.dict a keys dynamicKeys other).child? name = some child)
    (hinner : entries.lookup name = some inner)
    (hset : inner.isNull = false) (hchange : (change inner).isNull = false)
    (hbelow : Grows extra (child.findings rules (depth + 1) none (change inner))
      (child.findings rules (depth + 1) none inner)) :
    Grows (underKey name extra)
      ((Node.dict a keys dynamicKeys other).findings rules depth required
        (.object (entries.modify name change)))
      ((Node.dict a keys dynamicKeys other).findings rules depth required (.object entries)) := by
  rw [Node.findings_dict hdepth, Node.findings_dict hdepth, otherEntries_eq_flatMap,
    otherEntries_eq_flatMap]
  rcases Node.child?_eq_some hchild with hmem | ⟨hnot, hdynamic⟩
  · have hdeclared : name ∈ (keys.getD []).map Prod.fst := List.mem_map.2 ⟨_, hmem, rfl⟩
    have hother : ∀ check : Option (Document → List Finding), ∀ entry ∈ entries,
        ofOtherKey ((keys.getD []).map Prod.fst) check (other.getD false)
          (entry.1, if entry.1 = name then change entry.2 else entry.2) =
        ofOtherKey ((keys.getD []).map Prod.fst) check (other.getD false) entry := by
      intro check entry _
      by_cases hname : entry.1 = name
      · rw [← hname] at hdeclared
        exact (ofOtherKey_of_mem hdeclared).trans (ofOtherKey_of_mem hdeclared).symm
      · rw [if_neg hname]
    rw [Entries.modify, List.flatMap_map, List.flatMap_congr (hother _)]
    exact (grows_staticKeys hkeys hmem hinner hset hchange hbelow).append_right _
  · have hstatic : ∀ declared ∈ keys.getD [],
        ofStaticKey required (Node.findings rules (depth + 1) none)
          (entries.modify name change) declared =
          ofStaticKey required (Node.findings rules (depth + 1) none) entries declared := by
      intro declared hdeclared
      have hne : declared.1 ≠ name := fun heq => hnot (List.mem_map.2 ⟨declared, hdeclared, heq⟩)
      exact ofStaticKey_congr (by rw [Entries.lookup_modify_of_ne hne])
    rw [List.flatMap_congr hstatic, hdynamic, Option.map_some]
    exact (grows_otherKeys hnodup hnot hinner hbelow).append_left _

theorem grows_findings_element {item : Node} {c : ListConstraints} {position : Nat}
    {values : List Document} (hdepth : depth ≤ rules.maxDepth)
    (hinner : values[position]? = some inner) (hset : inner.isNull = false)
    (hchange : (change inner).isNull = false)
    (hkey : ∀ key ∈ c.primaryKey, (change inner).getSet? key = inner.getSet? key)
    (hbelow : Grows extra (item.findings rules (depth + 1) c.primaryKey (change inner))
      (item.findings rules (depth + 1) c.primaryKey inner)) :
    Grows (underIndex position extra)
      ((Node.list a (some item) c).findings rules depth required
        (.array (values.modify position change)))
      ((Node.list a (some item) c).findings rules depth required (.array values)) := by
  have helement : Grows extra (ofElement rules (depth + 1) c.primaryKey (some item) (change inner))
      (ofElement rules (depth + 1) c.primaryKey (some item) inner) := by
    rwa [ofElement, ofElement, element, element, hset, hchange]
  have helements : Grows (underIndex (0 + position) extra)
      (elements c.primaryKey (ofElement rules (depth + 1) c.primaryKey (some item)) 0 []
        (values.modify position change))
      (elements c.primaryKey (ofElement rules (depth + 1) c.primaryKey (some item)) 0 [] values) :=
    helement.elements hinner hkey
  rw [Nat.zero_add] at helements
  rw [Node.findings_list hdepth, Node.findings_list hdepth, List.length_modify]
  exact helements.append_left _

end

/-- Taking out an entry that holds null takes out the findings of this null, and nothing else. -/
theorem grows_findings_unset (h : Applicable rules depth node) (hnode : node.WellFormed)
    (hvalue : value.WellFormed) (hkeys : ScalarKeyed node value)
    (htarget : node.governing? path = some (.dict a keys dynamicKeys other))
    (hobject : value.atPath? path = some (.object entries))
    (hnull : entries.lookup key = some .null) :
    Grows (((Node.dict a keys dynamicKeys other).findingsOfNull key).map (Finding.under path))
      (node.findings rules depth required (value.unset key path))
        (node.findings rules depth required value) := by
  induction path generalizing node value depth required with
  | nil =>
    cases htarget
    cases hobject
    have hidentity : Finding.under [] = id := rfl
    rw [hidentity, List.map_id, Document.unset]
    exact grows_findings_remove h.le_maxDepth (Document.wellFormed_object.1 hvalue).1 hnull
  | cons segment rest ih =>
    cases segment with
    | key name =>
      obtain ⟨child, hchild, hgoverned⟩ := Option.bind_eq_some_iff.1 htarget
      obtain ⟨inner, hinner, hreached⟩ := Option.bind_eq_some_iff.1 hobject
      cases value with
      | object outer =>
        obtain ⟨hnodup, hvalues⟩ := Document.wellFormed_object.1 hvalue
        have hset := Document.isNull_of_isContainer (Document.isContainer_of_atPath? hreached)
        have hunset : (inner.unset key rest).isNull = false :=
          (Document.isNull_unset key rest inner).trans hset
        have hunder : Finding.under (.key name :: rest) =
            Finding.below (.key name) ∘ Finding.under rest := rfl
        have hinnerWell : inner.WellFormed := hvalues _ (Entries.mem_of_lookup hinner)
        have hchildWell := hnode.child? hchild
        rw [hunder, ← List.map_map, Document.unset]
        cases hnode with
        | dict hnames =>
          exact grows_findings_modify h.le_maxDepth hnames hnodup hchild hinner hset hunset
            (ih (h.child? hchild) hchildWell hinnerWell (hkeys.child? hchild hinner)
              hgoverned hreached)
        | _ => cases hchild
      | _ => cases hinner
    | index position =>
      obtain ⟨item, hitem, hgoverned⟩ := Option.bind_eq_some_iff.1 htarget
      cases value with
      | array values =>
        obtain ⟨inner, hinner, hreached⟩ := Option.bind_eq_some_iff.1 hobject
        have hmem := List.mem_of_getElem? hinner
        have hset := Document.isNull_of_isContainer (Document.isContainer_of_atPath? hreached)
        have hunset : (inner.unset key rest).isNull = false :=
          (Document.isNull_unset key rest inner).trans hset
        have hunder : Finding.under (.index position :: rest) =
            Finding.below (.index position) ∘ Finding.under rest := rfl
        rw [hunder, ← List.map_map, Document.unset]
        cases hnode with
        | list hitems =>
          cases hitem
          have hkey := fun name hname =>
            Document.getSet?_unset hreached hnull (hkeys [] _ name values rfl hname rfl inner hmem)
          exact grows_findings_element h.le_maxDepth hinner hset hunset hkey
            (ih (h.items? rfl) (hitems item rfl)
            (Document.wellFormed_array.1 hvalue inner hmem) (hkeys.items? rfl hinner)
              hgoverned hreached)
        | _ => cases hitem
      | _ => cases hobject

end Applicable

/-! ### Loaded schemas -/

namespace Node

variable {a : Attributes} {keys : Option (List (String × Node))} {dynamicKeys : Option Node}
  {other : Option Bool} {key : String}

theorem child?_eq_none_iff :
    (dict a keys dynamicKeys other).child? key = none ↔
      key ∉ (keys.getD []).map Prod.fst ∧ dynamicKeys = none := by
  rw [child?, Option.or_eq_none_iff, ← Entries.lookup_eq_none_iff]
  cases keys <;> simp

theorem findingsOfNull_eq_nil
    (h : (dict a keys dynamicKeys other).child? key ≠ none ∨ other = some true) :
    (dict a keys dynamicKeys other).findingsOfNull key = [] := by
  rw [findingsOfNull]
  split
  · rfl
  · rename_i hunknown
    rw [Bool.or_eq_true, not_or, List.contains_iff_mem, Option.not_isSome_iff_eq_none,
      ← child?_eq_none_iff] at hunknown
    rw [h.resolve_left (fun hne => hne hunknown)]
    rfl

theorem findingsOfNull_eq_unknownKey (h : (dict a keys dynamicKeys other).child? key = none)
    (hother : other ≠ some true) :
    (dict a keys dynamicKeys other).findingsOfNull key =
      [⟨[.key key],
        .unknownKey key (Suggestion.closest? ((keys.getD []).map Prod.fst) key) .null⟩] := by
  obtain ⟨hnot, rfl⟩ := child?_eq_none_iff.1 h
  have hclosed : other.getD false = false := by
    cases other with
    | none => rfl
    | some allowed => simpa using hother
  rw [findingsOfNull, if_neg (by simpa using hnot), hclosed]
  rfl

theorem eq_dict_of_kind {node : Node} (h : node.kind = .dict) :
    ∃ a keys dynamicKeys other, node = .dict a keys dynamicKeys other := by
  cases node with
  | dict a keys dynamicKeys other => exact ⟨a, keys, dynamicKeys, other, rfl⟩
  | _ => cases h

end Node

/-- Take a null entry out of an object that a dict node governs. Where the dict describes the key or
allows any key, the findings stay what they are. Under any other key exactly the finding that the
key is unknown goes away. -/
theorem WellLoaded.validate_unset {schema : Schema} {value : Document} {path : Path}
    {a : Attributes} {keys : Option (List (String × Node))} {dynamicKeys : Option Node}
    {other : Option Bool} {entries : Entries Document} {key : String} (h : WellLoaded schema)
    (hvalue : value.WellFormed) (hkeys : ScalarKeyed schema.root value)
    (htarget : schema.root.governing? path = some (.dict a keys dynamicKeys other))
    (hobject : value.atPath? path = some (.object entries))
    (hnull : entries.lookup key = some .null) :
    ((Node.dict a keys dynamicKeys other).child? key ≠ none ∨ other = some true →
      schema.validate (value.unset key path) = schema.validate value) ∧
    ((Node.dict a keys dynamicKeys other).child? key = none → other ≠ some true → ∃ before after,
      schema.validate (value.unset key path) = before ++ after ∧
      schema.validate value = before ++
        ⟨path ++ [.key key], .unknownKey key (Suggestion.closest? ((keys.getD []).map Prod.fst) key)
          .null⟩ :: after) := by
  have hgrows : Grows (((Node.dict a keys dynamicKeys other).findingsOfNull key).map
        (Finding.under path))
      (schema.validate (value.unset key path)) (schema.validate value) :=
    h.loaded.applicable.grows_findings_unset h.root_wellFormed hvalue hkeys htarget hobject hnull
  constructor
  · intro hdescribed
    rw [Node.findingsOfNull_eq_nil hdescribed] at hgrows
    exact hgrows.eq
  · intro hchild hother
    rw [Node.findingsOfNull_eq_unknownKey hchild hother] at hgrows
    obtain ⟨before, after, hunset, hvalue⟩ := hgrows
    exact ⟨before, after, hunset, by rw [hvalue, List.append_assoc]; rfl⟩

theorem Document.atPath?_ne_array {entries : Entries Document} {path : Path}
    {elements : List Document} (h : ∀ entry ∈ entries, entry.2.shape.isContainer = false) :
    (object entries).atPath? path ≠ some (.array elements) := by
  intro hpath
  rcases path with _ | ⟨name | position, rest⟩
  · cases hpath
  · obtain ⟨inner, hinner, hrest⟩ := Option.bind_eq_some_iff.1 hpath
    have hscalar := h _ (Entries.mem_of_lookup hinner)
    rcases rest with _ | ⟨name | position, rest⟩
    · cases hrest
      cases hscalar
    · cases inner <;> first | cases hrest | cases hscalar
    · cases inner <;> first | cases hrest | cases hscalar
  · cases hpath

/-- Objects of scalars in a list are told apart by scalars. -/
theorem ScalarKeyed.of_rows {node : Node} {rows : List (Entries Document)}
    (h : ∀ row ∈ rows, ∀ entry ∈ row, entry.2.shape.isContainer = false) :
    ScalarKeyed node (.array (rows.map Document.object)) := by
  intro path list key elements _ _ helements element helement held hheld
  rcases path with _ | ⟨name | position, rest⟩
  · cases helements
    obtain ⟨row, hrow, rfl⟩ := List.mem_map.1 helement
    exact h row hrow _ (Entries.mem_of_lookup (Document.getSet?_eq_some.1 hheld).1)
  · cases helements
  · obtain ⟨element, hposition, hrest⟩ := Option.bind_eq_some_iff.1 helements
    obtain ⟨row, hrow, rfl⟩ := List.mem_map.1 (List.mem_of_getElem? hposition)
    exact absurd hrest (Document.atPath?_ne_array (h row hrow))

def notedRows : Document :=
  .object [("type", .string "list"), ("primary_key", .string "id"), ("items", .object [
    ("type", .string "dict"), ("keys", .object [
      ("id", .object [("type", .string "int")]), ("note", .object [("type", .string "str")])])])]

/-- A row with two entries that are not set, one of them under a key that no row has. -/
def rowWithNulls : Entries Document := [("id", .int 1), ("note", .null), ("notes", .null)]

/-- Without the note the findings are the same, without the other entry there is none left. -/
theorem WellLoaded.validate_unset_rows : ∃ schema, WellLoaded schema ∧
    schema.validate (.array [.object rowWithNulls]) =
      [⟨[.index 0, .key "notes"], .unknownKey "notes" (some "note") .null⟩] ∧
    schema.validate (.array [.object [("id", .int 1), ("notes", .null)]]) =
      [⟨[.index 0, .key "notes"], .unknownKey "notes" (some "note") .null⟩] ∧
    schema.validate (.array [.object [("id", .int 1), ("note", .null)]]) = [] := by
  have hdocument : notedRows.WellFormed := by
    simp [notedRows, Document.WellFormed, Document.WellFormedEntries]
  have hrow : (Document.array [.object rowWithNulls]).WellFormed := by
    simp [rowWithNulls, Document.WellFormed, Document.WellFormedEntries,
      Document.WellFormedElements]
  have hrun : (Loader.standard.load notedRows).toOption.any (fun schema =>
      (schema.root.governing? [.index 0]).any (fun node =>
        node.kind == .dict && (node.child? "note").isSome &&
          (node.findingsOfNull "notes").length == 1) &&
      schema.validate (.array [.object rowWithNulls]) ==
          [⟨[.index 0, .key "notes"], .unknownKey "notes" (some "note") .null⟩]) =
        true := by decide +kernel
  obtain ⟨schema, hload, htest⟩ := exists_ok_of_any hrun
  rw [Bool.and_eq_true, beq_iff_eq, Option.any_eq_true] at htest
  obtain ⟨⟨node, hnode, htest⟩, hfindings⟩ := htest
  rw [Bool.and_eq_true, Bool.and_eq_true, beq_iff_eq, beq_iff_eq] at htest
  obtain ⟨⟨hkind, hnote⟩, hnotes⟩ := htest
  obtain ⟨a, keys, dynamicKeys, other, rfl⟩ := Node.eq_dict_of_kind hkind
  have hloaded : WellLoaded schema := .of_standard hdocument hload
  have hkeys : ScalarKeyed schema.root (.array ([rowWithNulls].map Document.object)) := by
    apply ScalarKeyed.of_rows
    rw [List.forall_mem_singleton]
    decide
  have hunknown : (Node.dict a keys dynamicKeys other).child? "notes" = none ∧
      other ≠ some true := by
    by_contra hnot
    rw [Node.findingsOfNull_eq_nil (by tauto)] at hnotes
    cases hnotes
  have hnull : rowWithNulls.lookup "note" = some .null ∧ rowWithNulls.lookup "notes" = some .null :=
    ⟨rfl, rfl⟩
  obtain ⟨hsame, -⟩ := hloaded.validate_unset hrow hkeys hnode rfl hnull.1
  obtain ⟨-, hless⟩ := hloaded.validate_unset hrow hkeys hnode rfl hnull.2
  obtain ⟨before, after, hunset, hvalue⟩ := hless hunknown.1 hunknown.2
  refine ⟨schema, hloaded, hfindings,
    (hsame (.inl (Option.isSome_iff_ne_none.1 hnote))).trans hfindings, hunset.trans ?_⟩
  have hlength := congrArg List.length (hfindings.symm.trans hvalue)
  simp only [List.length_append, List.length_cons, List.length_nil] at hlength
  rw [List.append_eq_nil_iff, ← List.length_eq_zero_iff, ← List.length_eq_zero_iff]
  omega

def Finding.report (finding : Finding) : Path × Category × String :=
  (finding.path, finding.problem.category, finding.problem.message)

/-- A null under a key that the dict does not describe is reported, so taking it out
makes the instance valid. -/
theorem WellLoaded.exists_validate_unset_ne : ∃ schema entries, WellLoaded schema ∧
    (∃ a keys dynamicKeys other, schema.root.governing? [] =
      some (.dict a keys dynamicKeys other)) ∧
    (Document.object entries).WellFormed ∧ ScalarKeyed schema.root (.object entries) ∧
    entries.lookup "x" = some .null ∧
    (schema.validate ((Document.object entries).unset "x" [])).map Finding.report ≠
      (schema.validate (.object entries)).map Finding.report := by
  have hdocument : portDocument.WellFormed := by
    simp [portDocument, Document.WellFormed, Document.WellFormedEntries]
  have hrun : (Loader.standard.load portDocument).toOption.any (fun schema =>
      schema.root.kind == .dict &&
      (schema.validate (.object [])).isEmpty &&
        !(schema.validate (.object [("x", .null)])).isEmpty) = true := by decide +kernel
  obtain ⟨schema, hload, htest⟩ := exists_ok_of_any hrun
  rw [Bool.and_eq_true, Bool.and_eq_true, beq_iff_eq, List.isEmpty_iff, Bool.not_eq_true',
    List.isEmpty_eq_false_iff] at htest
  obtain ⟨⟨hkind, hvalid⟩, hinvalid⟩ := htest
  obtain ⟨a, keys, dynamicKeys, other, hroot⟩ := Node.eq_dict_of_kind hkind
  refine ⟨schema, [("x", .null)], .of_standard hdocument hload,
    ⟨a, keys, dynamicKeys, other, congrArg some hroot⟩, ?_, ?_, rfl, ?_⟩
  · simp [Document.WellFormed, Document.WellFormedEntries]
  · intro path list key elements _ _ helements
    exact absurd helements (Document.atPath?_ne_array (by simp [Document.shape, Shape.isContainer]))
  · have hunset : (Document.object [("x", .null)]).unset "x" [] = .object [] := rfl
    rw [hunset, hvalid]
    simpa using hinvalid

end DataSchema
