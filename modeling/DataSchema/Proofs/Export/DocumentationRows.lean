import Mathlib.Data.List.Perm.Subperm
import DataSchema.Export.Documentation
import DataSchema.Proofs.Node.Steps

/-!
# The rows of a documentation table

A node has a variable for every static key and for the other keys of every dict in it, for the
elements of a list unless they are dicts with static keys, which stand for them, and for itself
unless it is a dict. The table has one row for each of these variables and no other rows, with one
exception: where elements are dicts with static keys, only these are listed, and what the elements
have under other keys is left out.

The rows are told apart by the positions they describe, so a table is compared with a list of
positions without repetitions. What two parts of a table list never overlaps, because the positions
in them take different first steps.
-/

namespace DataSchema

namespace Step

def title : Step → String
  | .key name => name
  | .dynamicKeys => "<key>"
  | .items => "<item>"

def label : Step → String
  | .key name => name
  | .dynamicKeys => "<key>"
  | .items => "[]"

end Step

namespace Node

variable {node inner : Node} {step : Step} {position rest : List Step}

/-- There is a variable at the position. Elements are variables unless they are
dicts with static keys. -/
def IsVariable (node : Node) (position : List Step) : Prop :=
  ∃ inner, node.at? position = some inner ∧ match position.getLast? with
    | none => node.kind ≠ .dict
    | some .items => inner.keyNames? = none
    | some _ => True

/-- The position leads through the other keys of an element that is a dict with static keys. -/
def Omitted (node : Node) (position : List Step) : Prop :=
  ∃ before after element, position = before ++ .items :: .dynamicKeys :: after ∧
    node.at? (before ++ [.items]) = some element ∧ element.keyNames? ≠ none

/-- The positions that have a row. -/
def Documented (node : Node) (position : List Step) : Prop :=
  node.IsVariable position ∧ ¬ node.Omitted position

/-- The positions in the table of a node that has a row of its own. -/
def HasRow (node : Node) (position : List Step) : Prop := position = [] ∨ node.Documented position

/-! ### Positions step by step -/

theorem at?_cons (h : node.below? step = some inner) (rest : List Step) :
    node.at? (step :: rest) = inner.at? rest := by
  rw [at?, h, Option.bind_some]

theorem isVariable_nil : node.IsVariable [] ↔ node.kind ≠ .dict := by
  simp [IsVariable, at?]

theorem isVariable_singleton (h : node.below? step = some inner) :
    node.IsVariable [step] ↔ (step = .items → inner.keyNames? = none) := by
  have hat : node.at? [step] = some inner := at?_cons h []
  rw [IsVariable, hat]
  cases step <;> simp

theorem isVariable_cons_cons (h : node.below? step = some inner) (next : Step) (rest : List Step) :
    node.IsVariable (step :: next :: rest) ↔ inner.IsVariable (next :: rest) := by
  rw [IsVariable, IsVariable, at?_cons h, List.getLast?_cons_cons]
  cases hlast : (next :: rest).getLast? with
  | none => exact absurd (List.getLast?_eq_none_iff.1 hlast) (List.cons_ne_nil _ _)
  | some last => cases last <;> rfl

theorem not_omitted_nil : ¬ node.Omitted [] := by
  rintro ⟨before, after, element, hposition, -⟩
  exact List.append_ne_nil_of_right_ne_nil before (List.cons_ne_nil _ _) hposition.symm

theorem omitted_cons (h : node.below? step = some inner) : node.Omitted (step :: rest) ↔
    (step = .items ∧ inner.keyNames? ≠ none ∧ rest.head? = some .dynamicKeys) ∨
    inner.Omitted rest := by
  constructor
  · rintro ⟨before, after, element, hposition, helement, hkeys⟩
    cases before with
    | nil =>
      cases hposition
      rw [List.nil_append, at?_cons h] at helement
      cases helement
      exact .inl ⟨rfl, hkeys, rfl⟩
    | cons first before =>
      cases hposition
      rw [List.cons_append, at?_cons h] at helement
      exact .inr ⟨before, after, element, rfl, helement, hkeys⟩
  · rintro (⟨rfl, hkeys, hhead⟩ | ⟨before, after, element, rfl, helement, hkeys⟩)
    · obtain ⟨after, rfl⟩ := List.head?_eq_some_iff.1 hhead
      exact ⟨[], after, inner, rfl, at?_cons h [], hkeys⟩
    · exact ⟨step :: before, after, element, rfl, (at?_cons h _).trans helement, hkeys⟩

theorem documented_nil : node.Documented [] ↔ node.kind ≠ .dict := by
  rw [Documented, isVariable_nil, and_iff_left not_omitted_nil]

theorem not_documented_of_below? (h : node.below? step = none) :
    ¬ node.Documented (step :: rest) := by
  rintro ⟨⟨inner, hinner, -⟩, -⟩
  rw [at?, h] at hinner
  cases hinner

theorem documented_cons (h : node.below? step = some inner)
    (hkeys : step = .items → inner.keyNames? = none) :
    node.Documented (step :: rest) ↔ inner.HasRow rest := by
  have homitted : node.Omitted (step :: rest) ↔ inner.Omitted rest := by
    rw [omitted_cons h, or_iff_right]
    rintro ⟨hitems, hne, -⟩
    exact hne (hkeys hitems)
  rw [HasRow, Documented, Documented, homitted]
  cases rest with
  | nil => simpa [isVariable_singleton h, not_omitted_nil] using hkeys
  | cons next rest => simp [isVariable_cons_cons h]

theorem documented_items (h : node.below? .items = some inner) (hkeys : inner.keyNames? ≠ none) :
    node.Documented (.items :: rest) ↔ inner.Documented rest ∧ rest.head? ≠ some .dynamicKeys := by
  have hdict : inner.kind = .dict := by
    cases inner with
    | dict => rfl
    | _ => exact absurd rfl hkeys
  rw [Documented, Documented, omitted_cons h, not_or, and_assoc,
    and_comm (a := ¬ inner.Omitted rest)]
  cases rest with
  | nil => simp [isVariable_singleton h, isVariable_nil, hkeys, hdict]
  | cons next rest => simp [isVariable_cons_cons h, hkeys]

def HasRowBelow (node : Node) (step : Step) (rest : List Step) : Prop :=
  ∃ inner, node.below? step = some inner ∧ inner.HasRow rest

theorem hasRowBelow_iff (h : node.below? step = some inner) :
    node.HasRowBelow step rest ↔ inner.HasRow rest := by
  simp [HasRowBelow, h]

end Node

namespace Documentation

open Node

variable {node inner : Node} {step : Step} {position rest : List Step} {above : List String}
  {name title path : String}

/-- The row is that of the node at a position. Its path is written with
the given labels in front. -/
def Describes (above : List String) (name : String) (node : Node) (position : List Step)
    (entry : DocumentationRow) : Prop :=
  ∃ inner depth mark, node.at? position = some inner ∧ entry = row inner depth mark
    ((position.map Step.title).getLastD name) (".".intercalate (above ++ position.map Step.label))

/-- There is exactly one row for each of the positions, and no other row. -/
def Tabulates (Listed : List Step → Prop) (R : List Step → DocumentationRow → Prop)
    (table : List DocumentationRow) : Prop :=
  ∃ positions : List (List Step), positions.Nodup ∧
    (∀ position, position ∈ positions ↔ Listed position) ∧
    List.Forall₂ R positions table

theorem Describes.below {entry : DocumentationRow} (h : node.below? step = some inner)
    (habove : ∀ rest, ".".intercalate (above ++ step.label :: rest) =
      ".".intercalate (path :: rest)) (hentry : Describes [path] step.title inner position entry) :
    Describes above name node (step :: position) entry := by
  obtain ⟨found, depth, mark, hfound, rfl⟩ := hentry
  refine ⟨found, depth, mark, (at?_cons h _).trans hfound, ?_⟩
  rw [List.map_cons, List.map_cons, List.getLastD_cons, habove]
  rfl

/-! ### Tables from parts -/

section Tables

variable {Listed Listed' : List Step → Prop} {R R' : List Step → DocumentationRow → Prop}
  {table table' : List DocumentationRow}

theorem Tabulates.congr (h : Tabulates Listed R table)
    (hiff : ∀ position, Listed' position ↔ Listed position) :
    Tabulates Listed' R table := by
  obtain ⟨positions, hnodup, hmem, hrows⟩ := h
  exact ⟨positions, hnodup, fun position => (hmem position).trans (hiff position).symm, hrows⟩

theorem Tabulates.mono (h : Tabulates Listed R table)
    (himp : ∀ position entry, R position entry → R' position entry) :
    Tabulates Listed R' table := by
  obtain ⟨positions, hnodup, hmem, hrows⟩ := h
  exact ⟨positions, hnodup, hmem, hrows.imp himp⟩

theorem Tabulates.nil : Tabulates (fun _ => False) R [] :=
  ⟨[], List.nodup_nil, by simp, .nil⟩

theorem Tabulates.cons {entry : DocumentationRow} (hentry : R [] entry)
    (h : Tabulates Listed R table) (hnil : ¬ Listed []) :
    Tabulates (fun position => position = [] ∨ Listed position) R (entry :: table) := by
  obtain ⟨positions, hnodup, hmem, hrows⟩ := h
  refine ⟨[] :: positions, List.nodup_cons.2 ⟨mt (hmem []).1 hnil, hnodup⟩, ?_, .cons hentry hrows⟩
  intro position
  rw [List.mem_cons, hmem]

theorem Tabulates.append (h : Tabulates Listed R table) (h' : Tabulates Listed' R table')
    (hdisjoint : ∀ position, Listed position → ¬ Listed' position) :
    Tabulates (fun position => Listed position ∨ Listed' position) R (table ++ table') := by
  obtain ⟨positions, hnodup, hmem, hrows⟩ := h
  obtain ⟨positions', hnodup', hmem', hrows'⟩ := h'
  refine ⟨positions ++ positions', hnodup.append hnodup' ?_, ?_, List.rel_append hrows hrows'⟩
  · intro position hposition hposition'
    exact hdisjoint position ((hmem position).1 hposition) ((hmem' position).1 hposition')
  · intro position
    rw [List.mem_append, hmem, hmem']

theorem Tabulates.below (h : Tabulates Listed (fun position => R (step :: position)) table) :
    Tabulates (fun position => ∃ rest, position = step :: rest ∧ Listed rest) R table := by
  obtain ⟨positions, hnodup, hmem, hrows⟩ := h
  refine ⟨positions.map (step :: ·), hnodup.map (List.cons_injective), ?_,
    List.forall₂_map_left_iff.2 hrows⟩
  intro position
  rw [List.mem_map]
  refine exists_congr fun rest => ?_
  rw [hmem, and_comm, eq_comm]

def AtKeys (names : List String) (Listed : String → List Step → Prop) (position : List Step) :
    Prop :=
  ∃ name ∈ names, ∃ rest, position = .key name :: rest ∧ Listed name rest

variable {α : Type} {entries : Entries α} {Below : String → List Step → Prop}

theorem Tabulates.key {names : List String} (hname : name ∉ names)
    (hfirst : Tabulates (Below name) (fun position => R (.key name :: position)) table)
    (hrest : Tabulates (AtKeys names Below) R table') :
    Tabulates (AtKeys (name :: names) Below) R (table ++ table') := by
  refine (hfirst.below.append hrest ?_).congr ?_
  · rintro _ ⟨rest, rfl, -⟩ ⟨name', hname', rest', hposition, -⟩
    cases hposition
    exact hname hname'
  · intro position
    simp only [AtKeys, List.mem_cons, or_and_right, exists_or, exists_eq_left]

theorem Tabulates.flatMap {write : String × α → List DocumentationRow}
    (hnodup : (entries.map Prod.fst).Nodup) (h : ∀ entry ∈ entries,
      Tabulates (Below entry.1) (fun position => R (.key entry.1 :: position)) (write entry)) :
    Tabulates (AtKeys (entries.map Prod.fst) Below) R (entries.flatMap write) := by
  induction entries with
  | nil => exact Tabulates.nil.congr (by simp [AtKeys])
  | cons entry rest ih =>
    rw [List.forall_mem_cons] at h
    rw [List.map_cons, List.nodup_cons] at hnodup
    exact Tabulates.key hnodup.1 h.1 (ih hnodup.2 h.2)

/-- Wherever a key comes in an element, at either indentation, its table
lists the same positions. -/
theorem tabulates_elementRows {tables : Entries (Nat → Mark → List DocumentationRow)}
    (primaryKey : Option String) (depth : Nat) (hnodup : (tables.map Prod.fst).Nodup)
    (h : ∀ entry ∈ tables, ∀ depth mark,
      Tabulates (Below entry.1) (fun position => R (.key entry.1 :: position))
        (entry.2 depth mark)) :
    Tabulates (AtKeys (tables.map Prod.fst) Below) R (elementRows primaryKey depth tables) := by
  cases tables with
  | nil => exact Tabulates.nil.congr (by simp [AtKeys])
  | cons entry rest =>
    rw [List.forall_mem_cons] at h
    rw [List.map_cons, List.nodup_cons] at hnodup
    exact Tabulates.key hnodup.1 (h.1 _ _) (Tabulates.flatMap hnodup.2 fun entry hentry =>
      h.2 entry hentry _ _)

end Tables

/-! ### The table of a node -/

theorem keyFirst_perm {α : Type} (key : String) (entries : Entries α) :
    (keyFirst key entries).Perm entries := by
  simpa [keyFirst, bne] using List.filter_append_perm
    (fun entry : String × α => entry.1 == key) entries

theorem dictRows_eq_flatMap (before : String) (depth : Nat) (keys : List (String × Node)) :
    dictRows before depth keys = keys.flatMap fun entry =>
      rows entry.1 (before ++ entry.1) depth .none entry.2 := by
  induction keys with
  | nil => rfl
  | cons entry rest ih => rw [dictRows, ih, List.flatMap_cons]

theorem keyTables_eq_map (before : String) (keys : List (String × Node)) :
    keyTables before keys =
      keys.map fun entry => (entry.1, fun depth mark =>
        rows entry.1 (before ++ entry.1) depth mark entry.2) := by
  induction keys with
  | nil => rfl
  | cons entry rest ih => rw [keyTables, ih, List.map_cons]

/-- The row of a node and those below it are its table, under any name and at any indentation. -/
def HasTable (node : Node) : Prop := ∀ name path depth mark,
  Tabulates node.HasRow (Describes [path] name node) (rows name path depth mark node)

theorem describes_nil (name path : String) (depth : Nat) (mark : Mark) (node : Node) :
    Describes [path] name node [] (row node depth mark name path) := ⟨node, depth, mark, rfl, rfl⟩

theorem HasTable.below (h : HasTable inner) (hinner : node.below? step = some inner) (depth : Nat)
    (mark : Mark) (habove : ∀ rest, ".".intercalate (above ++ step.label :: rest) =
      ".".intercalate (path :: rest)) :
    Tabulates (node.HasRowBelow step) (fun position => Describes above name node (step :: position))
      (rows step.title path depth mark inner) := by
  refine Tabulates.congr ?_ fun rest => hasRowBelow_iff hinner
  exact (h step.title path depth mark).mono fun position entry => Describes.below hinner habove

theorem hasTable_leaf (hbelow : ∀ step, node.below? step = none)
    (hrows : ∀ name path depth mark, rows name path depth mark node =
      [row node depth mark name path]) : HasTable node := by
  intro name path depth mark
  rw [hrows]
  refine (Tabulates.nil.cons (describes_nil name path depth mark node) id).congr fun position => ?_
  cases position with
  | nil => simp [HasRow]
  | cons step rest => simp [HasRow, not_documented_of_below? (hbelow step)]

section Dicts

variable {a : Attributes} {keys : Option (List (String × Node))} {dynamicKeys : Option Node}
  {other : Option Bool}

theorem documented_dict_cons :
    (Node.dict a keys dynamicKeys other).Documented (step :: rest) ↔
      (Node.dict a keys dynamicKeys other).HasRowBelow step rest := by
  cases hbelow : (Node.dict a keys dynamicKeys other).below? step with
  | none => exact iff_of_false (not_documented_of_below? hbelow) (by simp [HasRowBelow, hbelow])
  | some inner =>
    rw [hasRowBelow_iff hbelow]
    apply documented_cons hbelow
    rintro rfl
    cases hbelow

theorem documented_dict_iff :
    (Node.dict a keys dynamicKeys other).Documented position ↔
      AtKeys ((keys.getD []).map Prod.fst)
        (fun key => (Node.dict a keys dynamicKeys other).HasRowBelow (.key key)) position ∨
      ∃ rest, position = .dynamicKeys :: rest ∧
        (Node.dict a keys dynamicKeys other).HasRowBelow .dynamicKeys rest := by
  cases position with
  | nil => simp [documented_nil, Node.kind, AtKeys]
  | cons step rest =>
    rw [documented_dict_cons]
    cases step with
    | key key =>
      have hmem : (Node.dict a keys dynamicKeys other).HasRowBelow (.key key) rest →
          key ∈ (keys.getD []).map Prod.fst := by
        rintro ⟨inner, hinner, -⟩
        exact List.mem_map_of_mem (Entries.mem_of_lookup hinner)
      simp only [AtKeys, List.cons.injEq, Step.key.injEq, reduceCtorEq, false_and,
        exists_false, or_false]
      constructor
      · intro h
        exact ⟨key, hmem h, rest, ⟨rfl, rfl⟩, h⟩
      · rintro ⟨_, -, _, ⟨rfl, rfl⟩, h⟩
        exact h
    | dynamicKeys => simp [AtKeys]
    | items => simp [AtKeys, HasRowBelow, below?]

theorem tabulates_dict (hnodup : ((keys.getD []).map Prod.fst).Nodup)
    (hbelow : ∀ step inner, (Node.dict a keys dynamicKeys other).below? step = some inner →
      HasTable inner) (path : String → String) (depth : Nat)
    (habove : ∀ label rest, ".".intercalate (above ++ label :: rest) =
      ".".intercalate (path label :: rest)) :
    Tabulates (Node.dict a keys dynamicKeys other).Documented
      (Describes above name (.dict a keys dynamicKeys other))
      (((keys.getD []).flatMap fun entry => rows entry.1 (path entry.1) depth .none entry.2)
        ++ dynamicKeys.toList.flatMap fun inner =>
          rows "<key>" (path "<key>") depth .none inner) := by
  have hstatic : ∀ entry ∈ keys.getD [],
      Tabulates ((Node.dict a keys dynamicKeys other).HasRowBelow (.key entry.1))
      (fun position => Describes above name (.dict a keys dynamicKeys other)
        (.key entry.1 :: position))
      (rows entry.1 (path entry.1) depth .none entry.2) := by
    intro entry hentry
    have hinner : (Node.dict a keys dynamicKeys other).below? (.key entry.1) = some entry.2 :=
      Entries.lookup_of_mem hnodup hentry
    exact (hbelow _ _ hinner).below hinner depth .none (habove entry.1)
  have hother : Tabulates (fun position => ∃ rest, position = .dynamicKeys :: rest ∧
        (Node.dict a keys dynamicKeys other).HasRowBelow .dynamicKeys rest)
      (Describes above name (.dict a keys dynamicKeys other))
      (dynamicKeys.toList.flatMap fun inner => rows "<key>" (path "<key>") depth .none inner) := by
    cases dynamicKeys with
    | none => exact Tabulates.nil.congr (by simp [HasRowBelow, below?])
    | some inner =>
      rw [Option.toList_some, List.flatMap_singleton]
      exact ((hbelow .dynamicKeys inner rfl).below rfl depth .none (habove "<key>")).below
  refine ((Tabulates.flatMap hnodup hstatic).append hother ?_).congr fun position =>
    documented_dict_iff
  rintro _ ⟨key, -, rest, rfl, -⟩ ⟨rest', hposition, -⟩
  cases hposition

theorem hasTable_dict (hnodup : ((keys.getD []).map Prod.fst).Nodup)
    (hbelow : ∀ step inner, (Node.dict a keys dynamicKeys other).below? step = some inner →
      HasTable inner) :
    HasTable (.dict a keys dynamicKeys other) := by
  intro name path depth mark
  have hrows : rows name path depth mark (.dict a keys dynamicKeys other) =
      row (.dict a keys dynamicKeys other) depth mark name path ::
        (((keys.getD []).flatMap fun entry =>
            rows entry.1 (path ++ "." ++ entry.1) (depth + 1) .none entry.2)
          ++ dynamicKeys.toList.flatMap fun inner =>
            rows "<key>" (path ++ "." ++ "<key>") (depth + 1) .none inner) := by
    have hlabel : path ++ ".<key>" = path ++ "." ++ "<key>" := by rw [String.append_assoc]; rfl
    cases keys <;> cases dynamicKeys <;> simp [rows, dictRows_eq_flatMap, hlabel]
  rw [hrows]
  have hdocumented : ¬ (Node.dict a keys dynamicKeys other).Documented [] :=
    fun h => documented_nil.1 h rfl
  have habove : ∀ label rest, ".".intercalate ([path] ++ label :: rest) =
      ".".intercalate ((path ++ "." ++ label) :: rest) :=
    fun label rest => rfl
  exact (tabulates_dict hnodup hbelow (path ++ "." ++ ·) (depth + 1) habove).cons
    (describes_nil ..) hdocumented

end Dicts

section Lists

variable {a b : Attributes} {item : Node} {c : ListConstraints} {depth : Nat} {mark : Mark}
  {table : List DocumentationRow} {keys : List (String × Node)} {dynamicKeys : Option Node}
  {other : Option Bool}

theorem tabulates_list
    (h : Tabulates (fun rest => (Node.list a (some item) c).Documented (.items :: rest))
      (fun position => Describes [path] name (.list a (some item) c) (.items :: position)) table) :
    Tabulates (Node.list a (some item) c).HasRow (Describes [path] name (.list a (some item) c))
      (row (.list a (some item) c) depth mark name path :: table) := by
  refine (h.below.cons (describes_nil ..) ?_).congr fun position => ?_
  · rintro ⟨rest, hposition, -⟩
    cases hposition
  · cases position with
    | nil => simp [HasRow]
    | cons step rest =>
      have hstep : (Node.list a (some item) c).Documented (step :: rest) → step = .items := by
        intro h
        cases step with
        | items => rfl
        | _ => exact absurd h (not_documented_of_below? rfl)
      simp only [HasRow, List.cons.injEq, reduceCtorEq, false_or]
      constructor
      · intro h
        exact ⟨rest, ⟨hstep h, rfl⟩, hstep h ▸ h⟩
      · rintro ⟨_, ⟨rfl, rfl⟩, h⟩
        exact h

theorem hasTable_list (hkeys : item.keyNames? = none) (hitem : HasTable item) :
    HasTable (.list a (some item) c) := by
  intro name path depth mark
  have hrows : rows name path depth mark (.list a (some item) c) =
      row (.list a (some item) c) depth mark name path ::
        rows "<item>" (path ++ "." ++ "[]") (depth + 1) .first item := by
    have hlabel : path ++ "." ++ "[]" = path ++ ".[]" := String.append_assoc
    rw [hlabel]
    cases item with
    | dict b keys dynamicKeys other =>
      cases keys with
      | none => rfl
      | some keys => cases hkeys
    | _ => rfl
  rw [hrows]
  apply tabulates_list
  have hbelow : (Node.list a (some item) c).below? .items = some item := rfl
  refine (hitem.below hbelow (depth + 1) .first fun rest => rfl).congr fun rest => ?_
  rw [documented_cons hbelow fun _ => hkeys, hasRowBelow_iff hbelow]

theorem documented_elements_iff :
    (Node.list a (some (.dict b (some keys) dynamicKeys other)) c).Documented (.items :: rest) ↔
      AtKeys (keys.map Prod.fst) (fun key => (Node.dict b (some keys) dynamicKeys other).HasRowBelow
        (.key key)) rest := by
  rw [documented_items rfl (by simp [keyNames?]), documented_dict_iff]
  constructor
  · rintro ⟨hstatic | ⟨rest, rfl, -⟩, hhead⟩
    · exact hstatic
    · exact absurd rfl hhead
  · intro h
    refine ⟨.inl h, ?_⟩
    obtain ⟨key, -, rest, rfl, -⟩ := h
    simp

/-- What waits for its depth and mark in the table of an element is the table of a key. -/
theorem tabulates_keyTables (hnodup : (keys.map Prod.fst).Nodup)
    (hkeys : ∀ key, item.below? (.key key) = keys.lookup key)
    (hbelow : ∀ step inner, item.below? step = some inner → HasTable inner) (name path : String) :
    ∀ entry ∈ keyTables (path ++ ".[].") keys, ∀ depth mark,
      Tabulates (item.HasRowBelow (.key entry.1))
      (fun position => Describes [path] name (.list a (some item) c)
        (.items :: .key entry.1 :: position))
      (entry.2 depth mark) := by
  intro entry hentry depth mark
  rw [keyTables_eq_map] at hentry
  obtain ⟨⟨key, inner⟩, hmem, rfl⟩ := List.mem_map.1 hentry
  have hinner : item.below? (.key key) = some inner :=
    (hkeys key).trans (Entries.lookup_of_mem hnodup hmem)
  have hpath : path ++ ".[]." ++ key = path ++ "." ++ "[]" ++ "." ++ key := by
    have hlabel : ".[]." = "." ++ "[]" ++ "." := rfl
    simp only [hlabel, String.append_assoc]
  dsimp only
  rw [hpath]
  have hrows : Tabulates (item.HasRowBelow (.key key))
      (fun position => Describes [path ++ "." ++ "[]"] "<item>" item (.key key :: position))
      (rows key (path ++ "." ++ "[]" ++ "." ++ key) depth mark inner) :=
    (hbelow (.key key) inner hinner).below hinner depth mark fun rest => rfl
  exact hrows.mono fun position entry => Describes.below rfl fun rest => rfl

theorem hasTable_elements (hnodup : (keys.map Prod.fst).Nodup)
    (hbelow : ∀ step inner, (Node.dict b (some keys) dynamicKeys other).below? step = some inner →
      HasTable inner) :
    HasTable (.list a (some (.dict b (some keys) dynamicKeys other)) c) := by
  intro name path depth mark
  rw [rows]
  apply tabulates_list
  set item := Node.dict b (some keys) dynamicKeys other with hitem
  have htables : ∀ ordered, ordered.Perm (keyTables (path ++ ".[].") keys) →
      Tabulates (fun rest => (Node.list a (some item) c).Documented (.items :: rest))
        (fun position => Describes [path] name (.list a (some item) c) (.items :: position))
        (elementRows c.primaryKey depth ordered) := by
    intro ordered hperm
    have hnames : (ordered.map Prod.fst).Perm (keys.map Prod.fst) := by
      refine (hperm.map Prod.fst).trans (.of_eq ?_)
      rw [keyTables_eq_map, List.map_map]
      rfl
    have hordered : Tabulates (AtKeys (ordered.map Prod.fst) fun key => item.HasRowBelow (.key key))
        (fun position => Describes [path] name (.list a (some item) c) (.items :: position))
        (elementRows c.primaryKey depth ordered) :=
      tabulates_elementRows c.primaryKey depth (hnames.nodup_iff.2 hnodup) fun entry hentry =>
        tabulates_keyTables hnodup (fun _ => rfl) hbelow name path entry (hperm.mem_iff.1 hentry)
    refine hordered.congr fun rest => ?_
    rw [hitem, documented_elements_iff]
    simp only [AtKeys, hnames.mem_iff]
  apply htables
  split
  · exact keyFirst_perm _ _
  · exact .refl _

end Lists

theorem hasTable_of_wellFormed (h : node.WellFormed) : HasTable node := by
  induction node using inductionOnPositions with
  | h node ih =>
    have hbelow : ∀ step inner, node.below? step = some inner → HasTable inner := by
      intro step inner hinner
      exact ih step [] inner (at?_cons hinner []) (h.below? hinner)
    cases h with
    | str | int | bool => exact hasTable_leaf (fun step => by cases step <;> rfl) fun _ _ _ _ => rfl
    | dict hnodup => exact hasTable_dict hnodup hbelow
    | @list a items c hitems =>
      cases items with
      | none => exact hasTable_leaf (fun step => by cases step <;> rfl) fun _ _ _ _ => rfl
      | some item =>
        cases item with
        | dict b keys dynamicKeys other =>
          cases keys with
          | none => exact hasTable_list rfl (hbelow .items _ rfl)
          | some keys =>
            cases hitems _ rfl with
            | dict hnodup hkeys hdynamic =>
              refine hasTable_elements hnodup fun step inner hinner => ?_
              -- The element has no row, so the tables two steps below the list are needed here.
              exact ih .items [step] inner ((at?_cons rfl _).trans (at?_cons hinner []))
                ((WellFormed.dict hnodup hkeys hdynamic).below? hinner)
        | _ => exact hasTable_list rfl (hbelow .items _ rfl)

/-- A documentation table has one row for every variable of the node and no other rows, except for
what elements that are dicts with static keys have under other keys, which gets no rows. -/
theorem tabulates_ofNode (name : String) (h : node.WellFormed) :
    Tabulates (fun position => node.IsVariable position ∧ ¬ node.Omitted position)
      (Describes (if node.kind = .dict then [] else [name]) name node) (ofNode name node) := by
  have hbelow : ∀ step inner, node.below? step = some inner → HasTable inner :=
    fun step inner hinner => hasTable_of_wellFormed (h.below? hinner)
  have hother : node.kind ≠ .dict → ofNode name node = rows name name 0 .none node →
      Tabulates node.Documented (Describes (if node.kind = .dict then [] else [name]) name node)
        (ofNode name node) := by
    intro hkind hrows
    rw [if_neg hkind, hrows]
    refine (hasTable_of_wellFormed h name name 0 .none).congr fun position => ?_
    rw [HasRow, or_iff_right_of_imp]
    rintro rfl
    exact documented_nil.2 hkind
  cases node with
  | dict a keys dynamicKeys other =>
    cases h with
    | dict hnodup =>
      have hrows : ofNode name (.dict a keys dynamicKeys other) =
          ((keys.getD []).flatMap fun entry => rows entry.1 entry.1 0 .none entry.2)
            ++ dynamicKeys.toList.flatMap fun inner => rows "<key>" "<key>" 0 .none inner := by
        cases dynamicKeys <;> simp [ofNode, dictRows_eq_flatMap]
      have hkind : (Node.dict a keys dynamicKeys other).kind = .dict := rfl
      rw [hrows, if_pos hkind]
      exact tabulates_dict hnodup hbelow id 0 fun label rest => rfl
  | _ => exact hother (by simp [Node.kind]) rfl

def hosts : Node :=
  let keys := [("port", .int .empty ⟨none, none, none⟩),
    ("name", .str .empty ⟨none, none, none, none, none, none⟩)]
  .list .empty (some (.dict .empty (some keys) (some (.bool .empty ⟨none⟩)) none))
    ⟨some "name", none, none⟩

theorem tabulates_ofNode_hosts : hosts.WellFormed ∧
    Tabulates (fun position => hosts.IsVariable position ∧ ¬ hosts.Omitted position)
      (Describes ["hosts"] "hosts" hosts) (ofNode "hosts" hosts) := by
  have hosts_wellFormed : hosts.WellFormed := by
    refine .list fun item hitem => ?_
    cases hitem
    refine .dict (by decide) (fun entry hentry => ?_) fun inner hinner => ?_
    · simp only [Option.getD_some, List.mem_cons, List.not_mem_nil, or_false] at hentry
      rcases hentry with rfl | rfl
      · exact .int
      · exact .str
    · cases hinner
      exact .bool
  exact ⟨hosts_wellFormed, tabulates_ofNode "hosts" hosts_wellFormed⟩

/-- The variable for the other keys of hosts has no row: the table has three
rows for four variables. -/
theorem not_tabulates_hosts :
    ¬ Tabulates hosts.IsVariable (Describes ["hosts"] "hosts" hosts) (ofNode "hosts" hosts) := by
  rintro ⟨positions, -, hmem, hrows⟩
  have hvariables : [[], [.items, .key "name"], [.items, .key "port"], [.items, .dynamicKeys]] ⊆
      positions := by
    intro position hposition
    apply (hmem position).2
    simp only [List.mem_cons, List.not_mem_nil, or_false] at hposition
    rcases hposition with rfl | rfl | rfl | rfl
    · exact isVariable_nil.2 nofun
    · exact ⟨_, rfl, trivial⟩
    · exact ⟨_, rfl, trivial⟩
    · exact ⟨_, rfl, trivial⟩
  have hfour : 4 ≤ positions.length := (List.Nodup.subperm (by decide) hvariables).length_le
  have hthree : (ofNode "hosts" hosts).length = 3 := rfl
  rw [hrows.length_eq, hthree] at hfour
  omega

end Documentation

end DataSchema
