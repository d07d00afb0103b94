import DataSchema.Proofs.Validation.Conformance

/-!
# Instances with lists that may be too long

An instance is coherent with a node when it conforms to it, except that lists may be longer than the
node allows. Lists grow when documents are merged, so this is the most that merging can keep; and
validation finds nothing in a coherent instance but lists that are too long.
-/

namespace DataSchema

open Validation

/-- The instance follows the node but for the greatest lengths of lists. -/
inductive Coherent (formats : Formats) : Node → Option String → Document → Prop
  | null {node required} : Coherent formats node required .null
  | str {a c required text} :
      c.Allows formats text → Coherent formats (.str a c) required (.string text)
  | int {a c required value} : c.Allows value → Coherent formats (.int a c) required (.int value)
  | bool {a required value} {c : BoolConstraints} : (∀ values ∈ c.validValues, value ∈ values) →
      Coherent formats (.bool a c) required (.bool value)
  | dict {a keys dynamicKeys other required entries}
      (governed : ∀ entry ∈ entries, ∀ child ∈ (Node.dict a keys dynamicKeys other).child? entry.1,
        Coherent formats child none entry.2)
      (closed : ∀ entry ∈ entries, (Node.dict a keys dynamicKeys other).child? entry.1 = none →
        other = some true)
      (absent : ∀ key child, (key, child) ∈ keys.getD [] →
        (∀ value, entries.lookup key = some value → value = .null) →
        child.isRequired = false ∧ required ≠ some key) :
      Coherent formats (.dict a keys dynamicKeys other) required (.object entries)
  | list {a items required values} {c : ListConstraints}
      (minLength : ∀ min ∈ c.minLength, min ≤ values.length)
      (nonNull : items.isSome → ∀ value ∈ values, value ≠ .null)
      (each : ∀ item ∈ items, ∀ value ∈ values, Coherent formats item c.primaryKey value)
      (distinct : (identities c.primaryKey values).Nodup) :
      Coherent formats (.list a items c) required (.array values)

variable {formats : Formats} {node : Node} {required : Option String} {value : Document}

theorem Coherent.admits (h : Coherent formats node required value) (hnull : value ≠ .null) :
    node.kind.admits value = true := by
  cases h <;> first | rfl | exact absurd rfl hnull

/-! ### Conforming instances are coherent -/

theorem Conforms.coherent (hnode : node.WellFormed) (hvalue : value.WellFormed)
    (h : Conforms formats node required value) : Coherent formats node required value := by
  induction h with
  | null => exact .null
  | str hallows => exact .str hallows
  | int hallows => exact .int hallows
  | bool hlisted => exact .bool hlisted
  | @dict a keys dynamicKeys other required entries hpresent habsent hdynamic hclosed
    ihpresent ihdynamic =>
    obtain ⟨hnodup, hvalues⟩ := Document.wellFormed_object.1 hvalue
    refine .dict (fun entry hentry child hchild => ?_) (fun entry hentry hchild => ?_) habsent
    · have hwell : child.WellFormed := hnode.child? hchild
      rcases Node.child?_eq_some hchild with hstatic | ⟨hother, hdynamicKeys⟩
      · by_cases hnull : entry.2 = .null
        · exact hnull ▸ .null
        · have hlookup : entries.lookup entry.1 = some entry.2 :=
            Entries.lookup_of_mem hnodup hentry
          exact ihpresent entry.1 child hstatic entry.2 hlookup hnull hwell (hvalues entry hentry)
      · exact ihdynamic entry.1 entry.2 hentry hother child hdynamicKeys hwell
          (hvalues entry hentry)
    · by_cases hstatic : entry.1 ∈ (keys.getD []).map Prod.fst
      · obtain ⟨⟨key, child⟩, hdeclared, hkey⟩ := List.mem_map.1 hstatic
        cases hnode with
        | dict hkeys =>
          rw [← hkey, Node.child?_of_mem hkeys hdeclared] at hchild
          cases hchild
      · rw [Node.child?_of_not_mem hstatic] at hchild
        exact hclosed entry.1 entry.2 hentry hstatic hchild
  | list hlength hnonNull heach hdistinct ih =>
    cases hnode with
    | list hitems =>
      refine .list hlength.minLength hnonNull (fun item hitem value hmem => ?_) hdistinct
      exact ih item hitem value hmem (hitems item hitem)
        (Document.wellFormed_array.1 hvalue value hmem)

/-! ### What is found in coherent instances -/

/-- A list is longer than its node allows. -/
def Finding.IsLongList (finding : Finding) : Prop :=
  ∃ count max, max < count ∧ finding.problem = .longList count max

/-! Besides what is found below, a dict or a list has the findings that it had
if there were none below. -/

theorem mem_elements_or_repeated {primaryKey : Option String} {check : Document → List Finding}
    {index : Nat} {seen : Seen} {values : List Document} {finding : Finding}
    (h : finding ∈ elements primaryKey check index seen values) :
    (∃ value ∈ values, ∃ below ∈ check value, finding.problem = below.problem) ∨
      finding ∈ elements primaryKey (fun _ => []) index seen values := by
  induction values generalizing index seen with
  | nil => simp [elements] at h
  | cons value rest ih =>
    rw [elements, List.mem_append, List.mem_append] at h
    rw [elements, List.mem_append, List.mem_append]
    rcases h with (hcheck | hrepetition) | hrest
    · exact .inl ⟨value, List.mem_cons_self, problem_of_mem_underIndex hcheck⟩
    · exact .inr (.inl (.inr hrepetition))
    · rcases ih hrest with ⟨later, hlater, hbelow⟩ | hrepeated
      · exact .inl ⟨later, List.mem_cons_of_mem _ hlater, hbelow⟩
      · exact .inr (.inr hrepeated)

theorem mem_ofStaticKey_or_missing {check : Node → Document → List Finding}
    {entries : Entries Document} {declared : String × Node} {finding : Finding}
    (h : finding ∈ ofStaticKey required check entries declared) :
    (∃ value, entries.lookup declared.1 = some value ∧
      ∃ below ∈ check declared.2 value, finding.problem = below.problem) ∨
      finding ∈ ofStaticKey required (fun _ _ => []) entries declared := by
  unfold ofStaticKey at h ⊢
  split at h
  · rename_i value hset
    obtain ⟨hlookup, -⟩ := Option.filter_eq_some_iff.1 hset
    exact .inl ⟨value, hlookup, problem_of_mem_underKey h⟩
  · exact .inr h

theorem mem_otherEntries_or_unknown {declared : List String}
    {check : Option (Document → List Finding)} {allowOtherKeys : Bool} {entries : Entries Document}
    {finding : Finding} (h : finding ∈ otherEntries declared check allowOtherKeys entries) :
    (∃ entry ∈ entries, entry.1 ∉ declared ∧
      ∃ inner ∈ check, ∃ below ∈ inner entry.2, finding.problem = below.problem) ∨
      finding ∈ otherEntries declared (check.map fun _ _ => []) allowOtherKeys entries := by
  obtain ⟨entry, hentry, hfinding⟩ := List.mem_flatMap.1 h
  obtain ⟨hmem, hother⟩ := List.mem_filter.1 hentry
  cases check with
  | none => exact .inr h
  | some inner =>
    exact .inl ⟨entry, hmem, by simpa using hother, inner, rfl, problem_of_mem_underKey hfinding⟩

theorem mem_findings_of_mem_ofElement {rules : Rules} {depth : Nat} {primaryKey : Option String}
    {items : Option Node} {finding : Finding} (hnonNull : items.isSome → value ≠ .null)
    (h : finding ∈ ofElement rules depth primaryKey items value) :
    ∃ item ∈ items, finding ∈ item.findings rules depth primaryKey value := by
  cases items with
  | none => cases h
  | some item =>
    rw [ofElement, element, Document.isNull_eq_false.2 (hnonNull rfl)] at h
    exact ⟨item, rfl, h⟩

theorem ListConstraints.isLongList_of_mem_problems {c : ListConstraints} {count : Nat}
    (hmin : ∀ min ∈ c.minLength, min ≤ count) {problem : Problem} (h : problem ∈ c.problems count) :
    (here problem).IsLongList := by
  unfold problems at h
  rcases List.mem_append.1 h with hshort | hlong
  · cases hminLength : c.minLength with
    | none => simp [hminLength] at hshort
    | some min => simp [hminLength, Nat.not_lt.2 (hmin min hminLength)] at hshort
  · cases hmaxLength : c.maxLength with
    | none => simp [hmaxLength] at hlong
    | some max =>
      simp only [hmaxLength] at hlong
      split at hlong
      · rename_i hcount
        exact ⟨count, max, hcount, List.mem_singleton.1 hlong⟩
      · simp at hlong

theorem Finding.IsLongList.of_problem_eq {finding below : Finding} (h : below.IsLongList)
    (heq : finding.problem = below.problem) : finding.IsLongList := by
  obtain ⟨count, max, hlong, hproblem⟩ := h
  exact ⟨count, max, hlong, heq.trans hproblem⟩

section

variable {rules : Rules} {depth : Nat} {finding : Finding}

theorem Coherent.exists_of_mem_findings_dict {a : Attributes} {keys : Option (List (String × Node))}
    {dynamicKeys : Option Node} {other : Option Bool} {entries : Entries Document}
    (h : Coherent formats (.dict a keys dynamicKeys other) required (.object entries))
    (hnode : (Node.dict a keys dynamicKeys other).WellFormed) (hdepth : depth ≤ rules.maxDepth)
    (hmem : finding ∈ (Node.dict a keys dynamicKeys other).findings rules depth required
      (.object entries)) :
    ∃ entry ∈ entries, ∃ child, (Node.dict a keys dynamicKeys other).child? entry.1 = some child ∧
      ∃ below ∈ child.findings rules (depth + 1) none entry.2, finding.problem = below.problem := by
  cases h with
  | dict hgoverned hclosed habsent =>
    cases hnode with
    | dict hnodup =>
      rw [Node.findings_dict hdepth, List.mem_append] at hmem
      rcases hmem with hstatic | hother
      · obtain ⟨⟨key, child⟩, hdeclared, hfinding⟩ := List.mem_flatMap.1 hstatic
        rcases mem_ofStaticKey_or_missing hfinding with ⟨value, hlookup, below, hbelow, hproblem⟩
          | hmissing
        · exact ⟨(key, value), Entries.mem_of_lookup hlookup, child,
            Node.child?_of_mem hnodup hdeclared, below,
            hbelow, hproblem⟩
        · rw [ofStaticKey_eq_nil_iff.2 ⟨fun _ _ _ => rfl, habsent key child hdeclared⟩] at hmissing
          cases hmissing
      · rcases mem_otherEntries_or_unknown hother with
          ⟨entry, hentry, hnot, inner, hinner, below, hbelow, hproblem⟩ | hunknown
        · obtain ⟨child, hchild, rfl⟩ := Option.map_eq_some_iff.1 hinner
          exact ⟨entry, hentry, child, (Node.child?_of_not_mem hnot).trans hchild, below,
            hbelow, hproblem⟩
        · have hallowed : ∀ entry ∈ entries, entry.1 ∉ (keys.getD []).map Prod.fst →
              dynamicKeys = none →
              other.getD false = true := by
            intro entry hentry hnot hnone
            rw [hclosed entry hentry ((Node.child?_of_not_mem hnot).trans hnone)]
            rfl
          rw [otherEntries_eq_nil_iff.2 fun entry hentry hnot =>
            ⟨by simp, fun hnone => hallowed entry hentry hnot (by simpa using hnone)⟩] at hunknown
          cases hunknown

theorem Coherent.isLongList_or_exists_of_mem_findings_list {a : Attributes} {items : Option Node}
    {c : ListConstraints} {values : List Document}
    (h : Coherent formats (.list a items c) required (.array values))
    (hdepth : depth ≤ rules.maxDepth)
    (hmem : finding ∈ (Node.list a items c).findings rules depth required (.array values)) :
    finding.IsLongList ∨ ∃ item ∈ items, ∃ value ∈ values,
      ∃ below ∈ item.findings rules (depth + 1) c.primaryKey value, finding.problem =
        below.problem := by
  cases h with
  | list hminLength hnonNull _ hdistinct =>
    rw [Node.findings_list hdepth, List.mem_append] at hmem
    rcases hmem with hlength | helements
    · obtain ⟨problem, hproblem, rfl⟩ := List.mem_map.1 hlength
      exact .inl (ListConstraints.isLongList_of_mem_problems hminLength hproblem)
    · rcases mem_elements_or_repeated helements with ⟨value, hvalue, below, hbelow, hproblem⟩
        | hrepeated
      · obtain ⟨item, hitem, hfinding⟩ :=
          mem_findings_of_mem_ofElement (fun hitems => hnonNull hitems value hvalue) hbelow
        exact .inr ⟨item, hitem, value, hvalue, below, hfinding, hproblem⟩
      · rw [elements_eq_nil_iff.2 ⟨by simp, hdistinct, by simp⟩] at hrepeated
        cases hrepeated

/-- Validation finds nothing in a coherent instance but lists that are too long. -/
theorem Coherent.isLongList_of_mem_findings (h : Coherent rules.formats node required value)
    (hnode : node.WellFormed) (happlicable : Applicable rules depth node)
    (hsound : rules.patterns.Sound) (hmem : finding ∈ node.findings rules depth required value) :
    finding.IsLongList := by
  induction happlicable generalizing required value finding with
  | str hdepth hknown =>
    cases h with
    | null => simp at hmem
    | str hallows =>
      rw [Node.findings_str hdepth, (TextConstraints.problems_eq_nil_iff hknown hsound).2 hallows]
        at hmem
      cases hmem
  | int hdepth =>
    cases h with
    | null => simp at hmem
    | int hallows =>
      rw [Node.findings_int hdepth, IntConstraints.problems_eq_nil_iff.2 hallows] at hmem
      cases hmem
  | bool hdepth =>
    cases h with
    | null => simp at hmem
    | bool hlisted =>
      rw [Node.findings_bool hdepth, BoolConstraints.problems_eq_nil_iff.2 hlisted] at hmem
      cases hmem
  | dict hdepth _ _ ihkeys ihdynamic =>
    cases h with
    | null => simp at hmem
    | dict hgoverned hclosed habsent =>
      obtain ⟨entry, hentry, child, hchild, below, hbelow, hproblem⟩ :=
        Coherent.exists_of_mem_findings_dict (.dict hgoverned hclosed habsent) hnode hdepth hmem
      have hcoherent := hgoverned entry hentry child hchild
      have hwell : child.WellFormed := hnode.child? hchild
      rcases Node.child?_eq_some hchild with hstatic | ⟨-, hdynamic⟩
      · exact (ihkeys _ hstatic hcoherent hwell hbelow).of_problem_eq hproblem
      · exact (ihdynamic child hdynamic hcoherent hwell hbelow).of_problem_eq hproblem
  | list hdepth _ ih =>
    cases h with
    | null => simp at hmem
    | list hminLength hnonNull heach hdistinct =>
      rcases Coherent.isLongList_or_exists_of_mem_findings_list
        (.list hminLength hnonNull heach hdistinct) hdepth
        hmem with hlong | ⟨item, hitem, value, hvalue, below, hbelow, hproblem⟩
      · exact hlong
      · cases hnode with
        | list hitems =>
          exact (ih item hitem (heach item hitem value hvalue)
            (hitems item hitem) hbelow).of_problem_eq hproblem

end

end DataSchema
