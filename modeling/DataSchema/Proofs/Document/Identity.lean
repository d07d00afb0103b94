import DataSchema.Proofs.Document.Compact
import DataSchema.Proofs.Merge.Documents
import DataSchema.Proofs.Schema.Caching
import DataSchema.Proofs.Validation.Origins

/-!
# Identity by text is identity by value

Merging finds the elements of a keyed list by the texts of their primary key values, validation
finds repeated values by their texts, and a cache finds a schema by the digest of the text of its
document. A text belongs to one document only, so all three go by values. Integers, doubles and
strings stay apart however they are written, the two zeros are different doubles, and objects are
compared with the order of their keys.

A merge and a validation both go through a list and keep the place at which a text came first. What
they know of the elements so far is said by `firstHolder?`, which looks at values and at no text;
one step keeps this true.
-/

namespace DataSchema

namespace Document

variable {key : String} {value : Document} {elements more : List Document}

theorem compact_inj {x y : Document} : x.compact = y.compact ↔ x = y := compact_injective.eq_iff

/-- The place of the first element that holds a value under a key. -/
def firstHolder? (key : String) (value : Document) (elements : List Document) : Option Nat :=
  elements.findIdx? fun element => element.getSet? key = some value

theorem firstHolder?_append : firstHolder? key value (elements ++ more) =
    (firstHolder? key value elements).or
      ((firstHolder? key value more).map (· + elements.length)) :=
  List.findIdx?_append

theorem firstHolder?_singleton (element : Document) :
    firstHolder? key value [element] = if element.getSet? key = some value then some 0
      else none := by
  simp [firstHolder?, List.findIdx?_cons]

theorem firstHolder?_append_eq_some_iff {place : Nat} (hlt : place < elements.length) :
    firstHolder? key value (elements ++ more) = some place ↔
      firstHolder? key value elements = some place := by
  rw [firstHolder?_append]
  cases firstHolder? key value elements with
  | some first => rfl
  | none =>
    rw [Option.none_or, Option.map_eq_some_iff]
    constructor
    · rintro ⟨later, -, rfl⟩
      omega
    · nofun

end Document

open Document

/-! ### Merging -/

namespace Merge

variable {key identity : String} {state : List Slot} {base : List Document}
  {element value current : Document}

theorem identity?_eq_some_compact_iff :
    identity? key element = some value.compact ↔ element.getSet? key = some value := by
  simp [identity?, Option.map_eq_some_iff, compact_inj]

/-- What an element of the overlay is laid over, and where it stands: the first
slot with its identity. -/
def partner? (key : String) (state : List Slot) (element : Document) : Option (Nat × Document) :=
  (identity? key element).bind (find? · state)

/-- The slots are filed by what identifies the elements, one for each. -/
def FiledBy (key : String) (state : List Slot) (elements : List Document) : Prop :=
  state.map Prod.fst = elements.map (identity? key)

/-- The elements that slots are filed by once an overlay is laid over a base: those of
the base, and behind them those of the overlay that hold no value under the key or one
that was not held before. -/
def filers (key : String) (base : List Document) : List Document → List Document
  | [] => base
  | element :: rest =>
    if ((element.getSet? key).bind (firstHolder? key · base)).isSome then filers key base rest
    else filers key (base ++ [element]) rest

theorem prefix_filers (key : String) (base overlay : List Document) :
    base <+: filers key base overlay := by
  induction overlay generalizing base with
  | nil => exact List.prefix_rfl
  | cons element rest ih =>
    rw [filers]
    split
    · exact ih base
    · exact (List.prefix_append base [element]).trans (ih _)

theorem replace_eq_set {place : Nat} (h : find? identity state = some (place, current))
    (merged : Document) :
    replace identity merged state = state.set place (some identity, merged) := by
  obtain ⟨before, found, after, rfl, hbefore⟩ :=
    exists_eq_append (mem_tags.2 ⟨current, mem_of_find? h⟩)
  rw [find?_append hbefore] at h
  cases h
  simp [replace_append hbefore]

theorem map_fst_replace (merged : Document) :
    (replace identity merged state).map Prod.fst = state.map Prod.fst := by
  induction state with
  | nil => rfl
  | cons slot rest ih =>
    rw [replace]
    split
    · rfl
    · rw [List.map_cons, List.map_cons, ih]

theorem map_fst_find? :
    (find? identity state).map Prod.fst = (state.map Prod.fst).findIdx? (· = some identity) := by
  induction state with
  | nil => rfl
  | cons slot rest ih =>
    obtain ⟨tag, held⟩ := slot
    rw [List.map_cons, List.findIdx?_cons, ← ih, find?]
    by_cases htag : tag = some identity
    · simp [htag]
    · simp [htag, Function.comp_def]

namespace FiledBy

theorem slots (key : String) (elements : List Document) :
    FiledBy key (slots key elements) elements := by
  rw [FiledBy, Merge.slots, List.map_map]
  rfl

theorem append (h : FiledBy key state base) (element : Document) :
    FiledBy key (state ++ [(identity? key element, element)]) (base ++ [element]) := by
  rw [FiledBy, List.map_append, List.map_append, h]
  rfl

theorem map_fst_find? (h : FiledBy key state base) (value : Document) :
    (find? value.compact state).map Prod.fst = firstHolder? key value base := by
  rw [Merge.map_fst_find?, h, List.findIdx?_map, firstHolder?]
  congr 1
  funext element
  simp only [Function.comp_apply, identity?_eq_some_compact_iff]

theorem map_fst_partner? (h : FiledBy key state base) (element : Document) :
    (partner? key state element).map Prod.fst =
      (element.getSet? key).bind (firstHolder? key · base) := by
  rw [partner?, identity?, Option.bind_map, Option.map_bind]
  exact Option.bind_congr fun value _ => h.map_fst_find? value

end FiledBy

end Merge

namespace Document

open Merge

variable {options : MergeOptions} {depth : Nat} {node : Option Node} {key : String}
  {state result : List Slot} {base overlay : List Document}

/-- One step of a keyed merge, by places: an element is laid over its partner or goes to the end. -/
theorem mergeKeyed_cons (element : Document) (rest : List Document) :
    mergeKeyed options depth node key state (element :: rest) =
      match partner? key state element with
      | some (place, current) => do
        let merged ← (mergeAt options depth node current element).mapError
          (MergeError.below (.index place))
        mergeKeyed options depth node key (state.set place (identity? key element, merged)) rest
      | none =>
        mergeKeyed options depth node key (state ++ [(identity? key element, element)]) rest := by
  rw [mergeKeyed, partner?]
  cases identity? key element with
  | none => rfl
  | some identity =>
    cases hfind : find? identity state with
    | none => simp only [Option.bind_some, hfind]
    | some found => simp only [Option.bind_some, hfind, replace_eq_set hfind]

theorem filedBy_of_mergeKeyed (h : FiledBy key state base)
    (hrun : mergeKeyed options depth node key state overlay = .ok result) :
    FiledBy key result (filers key base overlay) := by
  induction overlay generalizing state base with
  | nil =>
    rw [mergeKeyed] at hrun
    cases hrun
    exact h
  | cons element rest ih =>
    have hpartner := h.map_fst_partner? element
    rw [mergeKeyed_cons] at hrun
    rw [filers, ← hpartner]
    cases hfound : partner? key state element with
    | none =>
      rw [hfound] at hrun
      exact ih (h.append element) hrun
    | some found =>
      obtain ⟨place, current⟩ := found
      rw [hfound] at hrun
      obtain ⟨merged, -, hrest⟩ := bind_eq_ok.1 hrun
      obtain ⟨identity, hidentity, hfind⟩ := Option.bind_eq_some_iff.1 hfound
      refine ih ?_ hrest
      rw [FiledBy, hidentity, ← replace_eq_set hfind, map_fst_replace, h]

theorem partner?_of_mergeKeyed
    (hrun : mergeKeyed options depth node key (slots key base) overlay = .ok state)
    (element : Document) : (partner? key state element).map Prod.fst =
      (element.getSet? key).bind (firstHolder? key · (filers key base overlay)) :=
  (filedBy_of_mergeKeyed (.slots key base) hrun).map_fst_partner? element

/-- An element of the overlay is laid over an element of the base if the two hold the same value,
which none before holds. -/
theorem partner?_eq_base_iff
    (hrun : mergeKeyed options depth node key (slots key base) overlay = .ok state)
    (element : Document) {place : Nat} (hplace : place < base.length) :
    (∃ current, partner? key state element = some (place, current)) ↔
      ∃ value, element.getSet? key = some value ∧ firstHolder? key value base = some place := by
  obtain ⟨added, hadded⟩ := prefix_filers key base overlay
  have hpartner : (partner? key state element).map Prod.fst = some place ↔
      ∃ value, element.getSet? key = some value ∧ firstHolder? key value base = some place := by
    rw [partner?_of_mergeKeyed hrun, Option.bind_eq_some_iff, ← hadded]
    simp only [firstHolder?_append_eq_some_iff hplace]
  rw [← hpartner, Option.map_eq_some_iff]
  simp

end Document

/-! ### Validation -/

namespace Validation

variable {key : String} {check : Document → List Finding} {seen : Seen}
  {before values : List Document} {finding : Finding}

/-- What is remembered of the elements before: where each value came first. -/
def Knows (key : String) (seen : Seen) (before : List Document) : Prop :=
  ∀ value, seen.lookup value.compact = firstHolder? key value before

theorem Knows.nil (key : String) : Knows key [] [] := fun _ => rfl

theorem Knows.remember (h : Knows key seen before) (element : Document) :
    Knows key (remember (some key) seen before.length element) (before ++ [element]) := by
  intro value
  rw [firstHolder?_append, firstHolder?_singleton, ← h value, Validation.remember]
  cases hset : element.getSet? key with
  | none => simp
  | some held =>
    dsimp only
    by_cases heq : held = value
    · subst heq
      cases hseen : seen.lookup held.compact <;> simp [hseen]
    · have hcompact : (value.compact == held.compact) = false :=
        beq_false_of_ne fun h => heq (compact_inj.1 h).symm
      cases hseen : seen.lookup held.compact <;> simp [heq, hcompact, List.lookup_cons]

theorem mem_repetition_iff (h : Knows key seen before) {index : Nat} {element : Document} :
    finding ∈ repetition (some key) seen index element ↔
      ∃ value first, element.getSet? key = some value ∧
      firstHolder? key value before = some first ∧
      finding = ⟨[.index index, .key key], .repeatedKey key first value⟩ := by
  rw [repetition]
  cases element.getSet? key with
  | none => simp
  | some value =>
    dsimp only
    rw [h value]
    cases hfirst : firstHolder? key value before <;> simp [hfirst]

theorem mem_elements_iff (h : Knows key seen before) :
    finding ∈ elements (some key) check before.length seen values ↔
      ∃ position element, values[position]? = some element ∧
      (finding ∈ underIndex (before.length + position) (check element) ∨
        ∃ value first, element.getSet? key = some value ∧
          firstHolder? key value (before ++ values.take position) = some first ∧
          finding = ⟨[.index (before.length + position), .key key],
            .repeatedKey key first value⟩) := by
  induction values generalizing seen before with
  | nil => simp [elements]
  | cons element rest ih =>
    have hrest := ih (h.remember element)
    rw [List.length_append, List.length_singleton] at hrest
    rw [elements, List.mem_append, List.mem_append, hrest, mem_repetition_iff h]
    constructor
    · rintro ((hcheck | hrepeated) | ⟨position, later, hlater, hfinding⟩)
      · exact ⟨0, element, rfl, .inl hcheck⟩
      · exact ⟨0, element, rfl, .inr (by simpa using hrepeated)⟩
      · refine ⟨position + 1, later, hlater, ?_⟩
        rwa [List.append_assoc, Nat.add_assoc, Nat.add_comm 1] at hfinding
    · rintro ⟨position, found, hfound, hfinding⟩
      cases position with
      | zero =>
        cases hfound
        exact .inl (hfinding.imp id fun hrepeated => by simpa using hrepeated)
      | succ position =>
        refine .inr ⟨position, found, hfound, ?_⟩
        rwa [List.append_assoc, Nat.add_assoc, Nat.add_comm 1]

theorem mem_elements_start_iff : finding ∈ elements (some key) check 0 [] values ↔
    ∃ position element, values[position]? = some element ∧
      (finding ∈ underIndex position (check element) ∨
      ∃ value first, element.getSet? key = some value ∧
        firstHolder? key value (values.take position) = some first ∧
        finding = ⟨[.index position, .key key], .repeatedKey key first value⟩) := by
  have hstart := @mem_elements_iff key check [] [] values finding (.nil key)
  simpa only [List.length_nil, Nat.zero_add, List.nil_append] using hstart

end Validation

open Validation

namespace Node

variable {rules : Rules} {depth : Nat} {required : Option String} {node : Node} {value : Document}
  {finding : Finding}

theorem admits_of_duplicateKey (hmem : finding ∈ node.findings rules depth required value)
    (hcategory : finding.problem.category = .duplicateKey) :
    depth ≤ rules.maxDepth ∧ node.kind.admits value = true := by
  have hdepth : depth ≤ rules.maxDepth := by
    by_contra hdeep
    have hnull : value ≠ .null := by
      rintro rfl
      simp at hmem
    rw [findings_tooDeep (Nat.lt_of_not_le hdeep) hnull, List.mem_singleton] at hmem
    rw [hmem] at hcategory
    cases hcategory
  rcases eq_wrongKind_or_admits hdepth hmem with rfl | hkind
  · cases hcategory
  · exact ⟨hdepth, hkind⟩

/-- A repeated value is found in an element of a list, so at least two steps below. -/
theorem two_le_of_duplicateKey (hmem : finding ∈ node.findings rules depth required value)
    (hcategory : finding.problem.category = .duplicateKey) : 2 ≤ finding.path.length := by
  have hconstraint : ∀ (node : Node) (value : Document),
      ∀ found ∈ (node.constraintProblems rules value).map here,
      found.problem.category ≠ .duplicateKey := by
    intro node value found hfound
    obtain ⟨problem, hproblem, rfl⟩ := List.mem_map.1 hfound
    exact ne_of_mem_of_not_mem (of_mem_constraintProblems hproblem).2 (by decide)
  induction node generalizing depth required value finding with
  | str | int | bool =>
    obtain ⟨hdepth, hkind⟩ := admits_of_duplicateKey hmem hcategory
    rw [findings_of_scalar hdepth (by simp [kind]) hkind] at hmem
    exact absurd hcategory (hconstraint _ _ _ hmem)
  | dict a keys dynamicKeys other ihkeys ihdynamic =>
    obtain ⟨hdepth, hkind⟩ := admits_of_duplicateKey hmem hcategory
    obtain ⟨entries, rfl⟩ := Kind.admits_dict.1 hkind
    rw [findings_dict hdepth, List.mem_append, otherEntries_eq_flatMap] at hmem
    rcases hmem with hstatic | hother
    · obtain ⟨declared, hdeclared, hfinding⟩ := List.mem_flatMap.1 hstatic
      rcases exists_of_mem_ofStaticKey hfinding with ⟨inner, below, -, hbelow, rfl⟩ | ⟨-, rfl⟩
      · exact Nat.le_succ_of_le (ihkeys declared hdeclared hbelow hcategory)
      · cases hcategory
    · obtain ⟨entry, -, hfinding⟩ := List.mem_flatMap.1 hother
      rcases (exists_of_mem_ofOtherKey hfinding).2 with ⟨check, hcheck, below, hbelow, rfl⟩
        | ⟨-, suggestion, rfl⟩
      · obtain ⟨dynamic, rfl, rfl⟩ := Option.map_eq_some_iff.1 hcheck
        exact Nat.le_succ_of_le (ihdynamic dynamic rfl hbelow hcategory)
      · cases hcategory
  | list a items c ih =>
    obtain ⟨hdepth, hkind⟩ := admits_of_duplicateKey hmem hcategory
    obtain ⟨values, rfl⟩ := Kind.admits_list.1 hkind
    rw [findings_list hdepth, List.mem_append] at hmem
    rcases hmem with hlength | helements
    · exact absurd hcategory (hconstraint (.list a items c) (.array values) _ hlength)
    · obtain ⟨position, element, -, ⟨below, hbelow, rfl⟩ | ⟨key, first, held, -, -, rfl⟩⟩ :=
        exists_of_mem_elements helements
      · obtain ⟨item, rfl, hfinding | ⟨rfl, rfl⟩⟩ := exists_of_mem_ofElement hbelow
        · exact Nat.le_succ_of_le (ih item rfl hfinding hcategory)
        · cases hcategory
      · exact Nat.le_refl 2

/-- A list reports a repeated value at an element exactly if the list is keyed and an element before
holds the same value; it names the first that does. -/
theorem repeatedKey_mem_findings_iff {a : Attributes} {items : Option Node} {c : ListConstraints}
    (hdepth : depth ≤ rules.maxDepth) (values : List Document) (index : Nat) (key : String)
    (first : Nat) (value : Document) :
    ⟨[.index index, .key key], .repeatedKey key first value⟩ ∈ (Node.list a items c).findings rules
      depth required (.array values) ↔
      c.primaryKey = some key ∧ ∃ element, values[index]? = some element ∧
        element.getSet? key = some value ∧
        Document.firstHolder? key value (values.take index) = some first := by
  -- An element by itself has no repeated values so near.
  have hcheck : ∀ {i : Nat} {element : Document},
      (⟨[.index index, .key key], .repeatedKey key first value⟩ : Finding) ∉
      underIndex i (ofElement rules (depth + 1) c.primaryKey items element) := by
    intro i element hmem
    obtain ⟨⟨path, problem⟩, hbelow, heq⟩ := List.mem_map.1 hmem
    cases heq
    obtain ⟨item, -, hfinding | ⟨-, hwrong⟩⟩ := exists_of_mem_ofElement hbelow
    · exact absurd (two_le_of_duplicateKey hfinding rfl) (by simp)
    · cases hwrong
  have hlength : (⟨[.index index, .key key], .repeatedKey key first value⟩ : Finding) ∉
      (c.problems values.length).map here := by
    simp [here]
  rw [findings_list hdepth, List.mem_append, or_iff_right hlength]
  cases hprimary : c.primaryKey with
  | none =>
    refine iff_of_false (fun hmem => ?_) (by simp)
    obtain ⟨_, _, -, ⟨below, hbelow, heq⟩ | ⟨_, _, _, hkey, -⟩⟩ := exists_of_mem_elements hmem
    · exact hcheck (List.mem_map.2 ⟨below, hprimary ▸ hbelow, heq.symm⟩)
    · cases hkey
  | some primary =>
    rw [hprimary] at hcheck
    rw [mem_elements_start_iff, Option.some.injEq]
    constructor
    · rintro ⟨position, element, helement, hmem | ⟨held, place, hheld, hfirst, heq⟩⟩
      · exact absurd hmem hcheck
      · cases heq
        exact ⟨rfl, element, helement, hheld, hfirst⟩
    · rintro ⟨rfl, element, helement, hheld, hfirst⟩
      exact ⟨index, element, helement, .inr ⟨value, first, hheld, hfirst, rfl⟩⟩

end Node

/-! ### Every comparison by text -/

namespace Fingerprint.TellApart

theorem ofDocument_inj {documents : Set Document} (h : TellApart documents) {x y : Document}
    (hx : x ∈ documents) (hy : y ∈ documents) : ofDocument x = ofDocument y ↔ x = y :=
  ⟨h.eq_of_ofDocument_eq hx hy, congrArg ofDocument⟩

end Fingerprint.TellApart

namespace Document

open Merge

/-- Two documents have one text only if they are equal. So a keyed merge lays an element of
the overlay over the first element of the base that holds the same value and over no other, a
list reports a value exactly if an element before holds the same, and documents share a
fingerprint only if they are equal, unless digests collide. An integer is never taken for the
string it is written as. -/
theorem identified_by_value :
    (∀ x y : Document, x.compact = y.compact ↔ x = y) ∧
    (∀ (options : MergeOptions) (depth : Nat) (node : Option Node) (key : String)
      (state : List Slot) (element : Document) (rest : List Document),
      mergeKeyed options depth node key state (element :: rest) =
        match partner? key state element with
        | some (place, current) => do
          let merged ← (mergeAt options depth node current element).mapError
            (MergeError.below (.index place))
          mergeKeyed options depth node key (state.set place (identity? key element, merged)) rest
        | none =>
          mergeKeyed options depth node key (state ++ [(identity? key element, element)]) rest) ∧
    (∀ (options : MergeOptions) (depth : Nat) (node : Option Node) (key : String)
      (base overlay : List Document) (state : List Slot),
      mergeKeyed options depth node key (slots key base) overlay = .ok state →
        ∀ (element : Document) (place : Nat), place < base.length →
          ((∃ current, partner? key state element = some (place, current)) ↔
            ∃ value, element.getSet? key = some value ∧
              firstHolder? key value base = some place)) ∧
    (∀ (rules : Rules) (depth : Nat) (required : Option String) (a : Attributes)
      (items : Option Node) (c : ListConstraints) (values : List Document) (index : Nat)
      (key : String) (first : Nat) (value : Document), depth ≤ rules.maxDepth →
        (⟨[.index index, .key key], .repeatedKey key first value⟩ ∈
            (Node.list a items c).findings rules depth required (.array values) ↔
          c.primaryKey = some key ∧ ∃ element, values[index]? = some element ∧
            element.getSet? key = some value ∧
            firstHolder? key value (values.take index) = some first)) ∧
    (∀ documents : Set Document, Fingerprint.TellApart documents →
      ∀ x ∈ documents, ∀ y ∈ documents,
        (Fingerprint.ofDocument x = Fingerprint.ofDocument y ↔ x = y)) ∧
    ∀ (key : String) (element other : Document) (i : Int) (text : String),
      element.getSet? key = some (.int i) → other.getSet? key = some (.string text) →
        identity? key element ≠ identity? key other := by
  refine ⟨fun _ _ => compact_inj, fun _ _ _ _ _ element rest => mergeKeyed_cons element rest,
    fun _ _ _ _ _ _ _ hrun element _ hplace => partner?_eq_base_iff hrun element hplace,
    fun _ _ _ _ _ _ values index key first value hdepth =>
      Node.repeatedKey_mem_findings_iff hdepth values index key first value,
    fun _ hapart _ hx _ hy => hapart.ofDocument_inj hx hy, ?_⟩
  intro key element other i text hint hstring heq
  rw [identity?, hint, Option.map_some, eq_comm, identity?_eq_some_compact_iff, hstring] at heq
  cases heq

def numbered (number : Document) : Document := .object [("number", number)]

def sevens : List Document := [numbered (.int 7), numbered (.string "7")]

def raisedSeven : Document := .object [("number", .string "7"), ("up", .bool true)]

def portList : Node := .list .empty none ⟨some "number", none, none⟩

/-- The digits are laid over the digits and reported as those that came second; the
number stays apart from them. -/
theorem identified_by_value_sevens : (int 7).compact ≠ (string "7").compact ∧ ∃ state,
    mergeKeyed .standard 1 none "number" (slots "number" sevens) [raisedSeven] = .ok state ∧
    state.map Prod.snd = [numbered (.int 7), raisedSeven] ∧
    (∃ current, partner? "number" state raisedSeven = some (1, current)) ∧
    (¬∃ current, partner? "number" state raisedSeven = some (0, current)) ∧
    ⟨[.index 2, .key "number"], .repeatedKey "number" 1 (.string "7")⟩ ∈
      portList.findings ⟨[], .builtin, defaultMaxDepth⟩ 0 none (.array (sevens ++ [raisedSeven])) ∧
    (∀ first, ⟨[.index 1, .key "number"], .repeatedKey "number" first (.string "7")⟩ ∉
      portList.findings ⟨[], .builtin, defaultMaxDepth⟩ 0 none (.array (sevens ++ [raisedSeven]))) ∧
    Fingerprint.TellApart {.int 7, .string "7"} ∧
    Fingerprint.ofDocument (.int 7) ≠ Fingerprint.ofDocument (.string "7") ∧
    identity? "number" (numbered (.int 7)) ≠ identity? "number" raisedSeven := by
  obtain ⟨hcompact, hstep, hpartner, hrepeated, hfingerprint, hkinds⟩ := identified_by_value
  have hrun : mergeKeyed .standard 1 none "number" (slots "number" sevens) [raisedSeven] =
      .ok ((slots "number" sevens).set 1 (identity? "number" raisedSeven, raisedSeven)) := by
    rw [hstep]
    rfl
  have hsecond : firstHolder? "number" (.string "7") sevens = some 1 := by decide
  have hapart : Fingerprint.TellApart {.int 7, .string "7"} := by
    have hdigests : Fingerprint.ofText (compact (.int 7)) ≠
        Fingerprint.ofText (compact (.string "7")) := by
      decide +kernel
    rintro a (rfl | rfl) b (rfl | rfl) heq
    · rfl
    · exact absurd heq hdigests
    · exact absurd heq.symm hdigests
    · rfl
  refine ⟨?_, _, hrun, rfl, ?_, ?_, ?_, ?_, hapart, ?_, ?_⟩
  · exact (hcompact _ _).not.2 nofun
  · exact (hpartner _ _ _ _ _ _ _ hrun raisedSeven 1 (by decide)).2 ⟨.string "7", rfl, hsecond⟩
  · intro hcurrent
    obtain ⟨value, hvalue, hfirst⟩ :=
      (hpartner _ _ _ _ _ _ _ hrun raisedSeven 0 (by decide)).1 hcurrent
    cases hvalue
    cases hsecond.symm.trans hfirst
  · exact (hrepeated _ _ _ _ _ _ _ _ _ _ _ (Nat.zero_le _)).2 ⟨rfl, raisedSeven, rfl,
      rfl, by decide⟩
  · intro first hmem
    obtain ⟨-, -, -, -, hfirst⟩ := (hrepeated _ _ _ _ _ _ _ _ _ _ _ (Nat.zero_le _)).1 hmem
    have hnone : firstHolder? "number" (.string "7") ((sevens ++ [raisedSeven]).take 1) = none := by
      decide
    rw [hnone] at hfirst
    cases hfirst
  · rw [Ne, hfingerprint _ hapart _ (.inl rfl) _ (.inr rfl)]
    nofun
  · exact hkinds _ _ _ _ _ rfl rfl

end Document

end DataSchema
