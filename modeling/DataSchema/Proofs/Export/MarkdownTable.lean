import Mathlib.Algebra.GroupWithZero.Nat
import DataSchema.Proofs.Export.DocumentationRows
import DataSchema.Proofs.Store.Addressing

/-!
# The lines of a documentation table

A table is a text of lines: the titles, a line under them, and one line for each row, all with six
cells. A line ends at a break, and a cell at a bar that no backslash precedes, so the lines and
cells can be told from the text as long as no cell holds either. Most cells are escaped or made of
fixed words. The path of a variable is written as it is: whether a table can be read depends on the
names in the paths, and on nothing else in the schema.
-/

namespace DataSchema

/-! ### Cutting a text into lines -/

namespace Text

variable {separator : Char} {lines : List (List Char)}

theorem not_mem_of_mem_pieces {text piece : List Char} (h : piece ∈ pieces separator text) :
    separator ∉ piece := by
  induction text generalizing piece with
  | nil =>
    rw [pieces, List.mem_singleton] at h
    rw [h]
    exact List.not_mem_nil
  | cons c rest ih =>
    rw [pieces] at h
    split at h
    · rcases List.mem_cons.1 h with rfl | hrest
      · exact List.not_mem_nil
      · exact ih hrest
    · rename_i hc
      cases hpieces : pieces separator rest with
      | nil =>
        rw [hpieces, List.mem_singleton] at h
        rw [h, List.mem_singleton]
        exact Ne.symm hc
      | cons first others =>
        rw [hpieces] at h ih
        rcases List.mem_cons.1 h with rfl | hothers
        · rw [List.mem_cons, not_or]
          exact ⟨Ne.symm hc, ih List.mem_cons_self⟩
        · exact ih (List.mem_cons_of_mem _ hothers)

theorem pieces_flatMap_iff :
    pieces separator (lines.flatMap fun line => line ++ [separator]) = lines ++ [[]] ↔
      ∀ line ∈ lines, separator ∉ line := by
  constructor
  · intro h line hline
    exact not_mem_of_mem_pieces (h ▸ List.mem_append_left _ hline)
  · intro h
    induction lines with
    | nil => rfl
    | cons line rest ih =>
      rw [List.forall_mem_cons] at h
      rw [List.flatMap_cons, List.append_assoc, List.singleton_append, pieces_eq_splitOn,
        List.splitOn_append_cons_self_of_not_mem h.1, ← pieces_eq_splitOn, ih h.2, List.cons_append]

end Text

namespace Documentation

open Node

variable {node : Node} {rows : List DocumentationRow}

/-! ### Cells and lines -/

/-- The number of bars that no backslash precedes. `escaped` says whether one
stands in front of the text. -/
def dividers (escaped : Bool) : List Char → Nat
  | [] => 0
  | c :: rest => (if c = '|' ∧ escaped = false then 1 else 0) + dividers (c = '\\') rest

/-- The cell has neither a bar that no backslash precedes nor a line break. -/
def Inline (cell : String) : Prop := dividers false cell.toList = 0 ∧ '\n' ∉ cell.toList

instance (cell : String) : Decidable (Inline cell) := inferInstanceAs (Decidable (_ ∧ _))

def tableLine (cells : List String) : List Char :=
  '|' :: cells.flatMap fun cell => ' ' :: cell.toList ++ [' ', '|']

def titles : List String :=
  ["Variable", "Type", "Required", "Default", "Value Restrictions", "Description"]

def underlines : List String :=
  ["--------", "----", "--------", "-------", "------------------", "-----------"]

def cells (row : DocumentationRow) : List String :=
  ["[<samp>" ++ escape (indented row.name) ++ "</samp>](## \"" ++ row.path ++ "\")",
    row.kind, row.required,
    escape row.fallback, escape ("<br>".intercalate row.restrictions), escape row.description]

def tableLines (rows : List DocumentationRow) : List (List Char) :=
  (titles :: underlines :: rows.map cells).map tableLine

/-- The text is a table of the rows: its lines are the two head lines and one line for each row in
their order, and in every line seven bars that no backslash precedes stand around six cells. -/
structure IsTable (rows : List DocumentationRow) (text : String) : Prop where
  lines : Text.pieces '\n' text.toList = tableLines rows ++ [[]]
  cells : ∀ line ∈ tableLines rows, dividers false line = 7

theorem dividers_append_cons {c : Char} (hc : c ≠ '|') (escaped : Bool) (before rest : List Char) :
    dividers escaped (before ++ c :: rest) = dividers escaped before +
      dividers (c = '\\') rest := by
  induction before generalizing escaped with
  | nil => simp [dividers, hc]
  | cons first before ih => rw [List.cons_append, dividers, dividers, ih, Nat.add_assoc]

theorem dividers_tableLine (cells : List String) :
    dividers false (tableLine cells) = cells.length + 1 +
      (cells.map fun cell => dividers false cell.toList).sum := by
  have hcells : dividers false (cells.flatMap fun cell => ' ' :: cell.toList ++ [' ', '|']) =
      cells.length + (cells.map fun cell => dividers false cell.toList).sum := by
    induction cells with
    | nil => rfl
    | cons cell rest ih =>
      have hcell : ∀ after, dividers false (' ' :: cell.toList ++ [' ', '|'] ++ after) =
          dividers false cell.toList + (1 + dividers false after) := by
        intro after
        have hafter : ' ' :: cell.toList ++ [' ', '|'] ++ after =
            [] ++ ' ' :: (cell.toList ++ ' ' :: '|' :: after) := by simp
        rw [hafter, dividers_append_cons (by decide), dividers_append_cons (by decide)]
        simp [dividers]
      rw [List.flatMap_cons, hcell, ih, List.length_cons, List.map_cons, List.sum_cons]
      omega
  have hbar : dividers false (tableLine cells) =
      1 + dividers false (cells.flatMap fun cell => ' ' :: cell.toList ++ [' ', '|']) := rfl
  rw [hbar, hcells]
  omega

theorem break_mem_tableLine {cells : List String} :
    '\n' ∈ tableLine cells ↔ ∃ cell ∈ cells, '\n' ∈ cell.toList := by
  simp [tableLine]

theorem readable_tableLine_iff {cells : List String} (h : cells.length = 6) :
    (dividers false (tableLine cells) = 7 ∧ '\n' ∉ tableLine cells) ↔
      ∀ cell ∈ cells, Inline cell := by
  have hsum : dividers false (tableLine cells) = 7 ↔
      (cells.map fun cell => dividers false cell.toList).sum = 0 := by
    rw [dividers_tableLine, h]
    omega
  rw [hsum, List.sum_eq_zero_iff_forall_eq_nat, List.forall_mem_map, break_mem_tableLine]
  simp only [not_exists, not_and, Inline, forall_and]

/-! ### Escaped cells and fixed words -/

/-- Around a character that is no bar, backslash or break, a text is inline
exactly if both sides are. -/
theorem inline_iff_of_toList_eq {text before after : String} {c : Char} (hc : c ∉ ['|', '\\', '\n'])
    (h : text.toList = before.toList ++ c :: after.toList) :
    Inline text ↔ Inline before ∧ Inline after := by
  simp only [List.mem_cons, List.not_mem_nil, or_false, not_or] at hc
  rw [Inline, Inline, Inline, h, dividers_append_cons hc.1]
  simp [hc.2.1, Ne.symm hc.2.2, and_and_and_comm]

theorem dividers_escape (escaped : Bool) (cell : String) :
    dividers escaped (escape cell).toList = 0 := by
  rw [escape, String.toList_ofList]
  induction cell.toList generalizing escaped with
  | nil => rfl
  | cons c rest ih =>
    rw [List.flatMap_cons]
    by_cases hbar : c = '|'
    · rw [if_pos hbar, List.cons_append, List.singleton_append, dividers, dividers, ih]
      simp
    · by_cases hbreak : c = '\n'
      · rw [if_neg hbar, if_pos hbreak, List.singleton_append, dividers, ih]
        simp
      · rw [if_neg hbar, if_neg hbreak, List.singleton_append, dividers, ih,
          if_neg fun h => hbar h.1]

theorem break_not_mem_escape (cell : String) : '\n' ∉ (escape cell).toList := by
  rw [escape, String.toList_ofList, List.mem_flatMap]
  rintro ⟨c, -, hc⟩
  split_ifs at hc with hbar hbreak
  · simp at hc
  · simp at hc
  · exact hbreak (List.mem_singleton.1 hc).symm

theorem inline_escape (cell : String) : Inline (escape cell) :=
  ⟨dividers_escape false cell, break_not_mem_escape cell⟩

theorem inline_typeName (node : Node) : Inline (typeName node) := by
  have hwords : ∀ word ∈ ["String", "Integer", "Boolean", "Dictionary", "List", "List, items:"],
      Inline word := by decide
  induction node with
  | str | int | bool | dict => exact hwords _ (by simp [typeName])
  | list a items c ih =>
    cases items with
    | none => exact hwords _ (by simp [typeName])
    | some item =>
      have hletters : (typeName (.list a (some item) c)).toList =
          "List, items:".toList ++ ' ' :: (typeName item).toList := by
        simp [typeName]
      exact (inline_iff_of_toList_eq (by decide) hletters).2 ⟨hwords _ (by simp), ih item rfl⟩

theorem inline_requiredText (node : Node) (mark : Mark) : Inline (requiredText node mark) := by
  unfold requiredText
  split_ifs <;> decide

theorem inline_variable_iff (name path : String) :
    Inline ("[<samp>" ++ escape (indented name) ++ "</samp>](## \"" ++ path ++ "\")") ↔
      Inline path := by
  have hletters : ("[<samp>" ++ escape (indented name) ++ "</samp>](## \"" ++ path ++
        "\")").toList =
      "[<samp".toList ++ '>' :: ((escape (indented name)).toList ++ '<' ::
        ("/samp>](## ".toList ++ '"' :: (path.toList ++ '"' :: [')']))) := by
    simp [String.toList_append]
  rw [Inline, Inline, hletters]
  simp only [dividers_append_cons (c := '>') (by decide), dividers_append_cons (c := '<')
    (by decide), dividers_append_cons (c := '"') (by decide), dividers_escape]
  simp [dividers, break_not_mem_escape]

/-! ### Tables -/

theorem toList_line (row : DocumentationRow) :
    (line row).toList = tableLine (cells row) ++ ['\n'] := by
  unfold line
  simp [tableLine, cells]

theorem toList_markdown (rows : List DocumentationRow) :
    (markdown rows).toList = (tableLines rows).flatMap fun line => line ++ ['\n'] := by
  have hrows : (String.join (rows.map line)).toList = rows.flatMap fun row =>
      tableLine (cells row) ++ ['\n'] := by
    rw [String.toList_join, List.flatMap_map]
    simp only [toList_line]
  unfold markdown
  rw [String.toList_append, hrows, tableLines]
  simp [List.flatMap_map, tableLine, titles, underlines]

/-- Where the two cells for the type and whether a variable is required hold fixed words, a table
can be read exactly if the paths can be. -/
theorem isTable_markdown_iff_paths (hkind : ∀ row ∈ rows, Inline row.kind)
    (hrequired : ∀ row ∈ rows, Inline row.required) :
    IsTable rows (markdown rows) ↔ ∀ row ∈ rows, Inline row.path := by
  have hlines : IsTable rows (markdown rows) ↔ ∀ line ∈ tableLines rows, dividers false line = 7 ∧
      '\n' ∉ line := by
    constructor
    · intro h line hline
      have hbreaks := h.lines
      rw [toList_markdown, Text.pieces_flatMap_iff] at hbreaks
      exact ⟨h.cells line hline, hbreaks line hline⟩
    · intro h
      refine ⟨?_, fun line hline => (h line hline).1⟩
      rw [toList_markdown, Text.pieces_flatMap_iff]
      exact fun line hline => (h line hline).2
  have hhead : ∀ cells ∈ [titles, underlines], ∀ cell ∈ cells, Inline cell := by decide
  have hrow : ∀ row ∈ rows, (∀ cell ∈ cells row, Inline cell) ↔ Inline row.path := by
    intro row hrow
    simp [cells, inline_variable_iff, inline_escape, hkind row hrow, hrequired row hrow]
  rw [hlines, tableLines, List.forall_mem_map, List.forall_mem_cons, List.forall_mem_cons,
    List.forall_mem_map, readable_tableLine_iff rfl, readable_tableLine_iff rfl]
  rw [List.forall_mem_cons, List.forall_mem_singleton] at hhead
  rw [and_iff_right hhead.1, and_iff_right hhead.2]
  refine forall₂_congr fun row hmem => ?_
  rw [readable_tableLine_iff rfl, hrow row hmem]

/-! ### The names in the paths -/

theorem inline_append_point (before after : String) :
    Inline (before ++ "." ++ after) ↔ Inline before ∧ Inline after := by
  have hletters : (before ++ "." ++ after).toList = before.toList ++ '.' :: after.toList := by simp
  exact inline_iff_of_toList_eq (by decide) hletters

theorem inline_intercalate_iff (texts : List String) :
    Inline (".".intercalate texts) ↔ ∀ text ∈ texts, Inline text := by
  induction texts with
  | nil => simp [Inline, dividers]
  | cons text rest ih =>
    cases rest with
    | nil => simp
    | cons next rest =>
      rw [String.intercalate_cons_cons, inline_append_point, ih, ← List.forall_mem_cons]

theorem forall_inline_label_iff {position : List Step} :
    (∀ label ∈ position.map Step.label, Inline label) ↔ ∀ key, Step.key key ∈ position →
      Inline key := by
  rw [List.forall_mem_map]
  constructor
  · exact fun h key hkey => h _ hkey
  · intro h step hstep
    cases step with
    | key key => exact h key hstep
    | dynamicKeys | items => decide

/-- What is said of every row can be said of every position that has one. -/
theorem Tabulates.forall_iff {Listed : List Step → Prop} {R : List Step → DocumentationRow → Prop}
    {P : DocumentationRow → Prop} {Q : List Step → Prop} (h : Tabulates Listed R rows)
    (hiff : ∀ position row, R position row → (P row ↔ Q position)) :
    (∀ row ∈ rows, P row) ↔ ∀ position, Listed position → Q position := by
  obtain ⟨positions, -, hlisted, hrows⟩ := h
  have hpositions : (∀ row ∈ rows, P row) ↔ ∀ position ∈ positions, Q position := by
    clear hlisted
    induction hrows with
    | nil => simp
    | cons hrow _ ih => rw [List.forall_mem_cons, List.forall_mem_cons, hiff _ _ hrow, ih]
  rw [hpositions]
  exact forall_congr' fun position => imp_congr_left (hlisted position)

theorem isTable_markdown_iff_of_tabulates {Listed : List Step → Prop} {above : List String}
    {name : String} (h : Tabulates Listed (Describes above name node) rows) :
    IsTable rows (markdown rows) ↔ ∀ position, Listed position →
      (∀ label ∈ above, Inline label) ∧ ∀ key, Step.key key ∈ position → Inline key := by
  have hkind : ∀ row ∈ rows, Inline row.kind := by
    refine (h.forall_iff (Q := fun _ => True) fun position row hrow => ?_).2 fun _ _ => trivial
    obtain ⟨inner, depth, mark, -, rfl⟩ := hrow
    exact iff_true_intro (inline_typeName inner)
  have hrequired : ∀ row ∈ rows, Inline row.required := by
    refine (h.forall_iff (Q := fun _ => True) fun position row hrow => ?_).2 fun _ _ => trivial
    obtain ⟨inner, depth, mark, -, rfl⟩ := hrow
    exact iff_true_intro (inline_requiredText inner mark)
  rw [isTable_markdown_iff_paths hkind hrequired]
  refine h.forall_iff fun position row hrow => ?_
  obtain ⟨inner, depth, mark, -, rfl⟩ := hrow
  rw [row, inline_intercalate_iff, List.forall_mem_append, forall_inline_label_iff]

theorem ofNode_dict (name : String) (a : Attributes) (keys : Option (List (String × Node)))
    (dynamicKeys : Option Node) (other : Option Bool) :
    ofNode name (.dict a keys dynamicKeys other) =
      ((keys.getD []).flatMap fun entry => Documentation.rows entry.1 entry.1 0 .none entry.2)
        ++ dynamicKeys.toList.flatMap fun inner =>
          Documentation.rows "<key>" "<key>" 0 .none inner := by
  cases dynamicKeys <;> simp [ofNode, dictRows_eq_flatMap]

/-- A documentation table is a table of its rows exactly if the keys on the way to its variables
have neither a bar that no backslash precedes nor a line break, nor has the name of a node that is
no dict. Patterns, defaults, valid values and descriptions do not matter. -/
theorem isTable_markdown_iff (h : node.WellFormed) (name : String) :
    IsTable (ofNode name node) (markdown (ofNode name node)) ↔ (node.kind ≠ .dict → Inline name) ∧
      ∀ position, node.Documented position → ∀ key, Step.key key ∈ position → Inline key := by
  have hother : node.kind ≠ .dict → ofNode name node = Documentation.rows name name 0 .none node →
      (IsTable (ofNode name node) (markdown (ofNode name node)) ↔
        (node.kind ≠ .dict → Inline name) ∧
        ∀ position, node.Documented position → ∀ key, Step.key key ∈ position → Inline key) := by
    intro hkind hrows
    rw [hrows, isTable_markdown_iff_of_tabulates (hasTable_of_wellFormed h name name 0 .none)]
    simp only [List.forall_mem_singleton]
    constructor
    · intro hall
      exact ⟨fun _ => (hall [] (.inl rfl)).1, fun position hposition =>
        (hall position (.inr hposition)).2⟩
    · rintro ⟨hname, hkeys⟩ position (rfl | hposition)
      · exact ⟨hname hkind, by simp⟩
      · exact ⟨hname hkind, hkeys position hposition⟩
  cases node with
  | dict a keys dynamicKeys other =>
    have hbelow : ∀ step inner, (Node.dict a keys dynamicKeys other).below? step = some inner →
        HasTable inner :=
      fun step inner hinner => hasTable_of_wellFormed (h.below? hinner)
    cases h with
    | dict hnodup =>
      have htable : Tabulates (Node.dict a keys dynamicKeys other).Documented
          (Describes [] name (.dict a keys dynamicKeys other))
          (ofNode name (.dict a keys dynamicKeys other)) := by
        rw [ofNode_dict]
        exact tabulates_dict hnodup hbelow id 0 fun label rest => rfl
      refine (isTable_markdown_iff_of_tabulates htable).trans ?_
      simp [Node.kind]
  | _ => exact hother (by simp [Node.kind]) rfl

def modes : Node :=
  .dict .empty (some [
    ("mode", .str ⟨none, none, some (.string "a|b"), some "a | b\nor none", none, none⟩
      ⟨some ["a|b", "\\|"], none, none, some "^(a|b|\\|)$", none, none⟩)]) none none

theorem isTable_markdown_modes :
    modes.WellFormed ∧ IsTable (ofNode "root" modes) (markdown (ofNode "root" modes)) ∧
    ∀ position, modes.Documented position → ∀ key, Step.key key ∈ position → Inline key := by
  have modes_wellFormed : modes.WellFormed := by
    refine .dict (by decide) (fun entry hentry => ?_) nofun
    rw [Option.getD_some, List.mem_singleton] at hentry
    subst hentry
    exact .str
  have htable : IsTable (ofNode "root" modes) (markdown (ofNode "root" modes)) :=
    (isTable_markdown_iff_paths (by decide) (by decide)).2 (by decide)
  exact ⟨modes_wellFormed, htable, ((isTable_markdown_iff modes_wellFormed "root").1 htable).2⟩

def barred : Node := .dict .empty (some [("a|b", .bool .empty ⟨none⟩)]) none none

/-- The line for the key has eight bars that no backslash precedes, one of them from the path. -/
theorem not_isTable_markdown_barred : barred.WellFormed ∧
    ¬ IsTable (ofNode "root" barred) (markdown (ofNode "root" barred)) := by
  constructor
  · refine .dict (by decide) (fun entry hentry => ?_) nofun
    rw [Option.getD_some, List.mem_singleton] at hentry
    subst hentry
    exact .bool
  · intro h
    have height : (tableLines (ofNode "root" barred)).map (dividers false) = [7, 7, 8] := by
      decide +kernel
    have hseven : ∀ count ∈ (tableLines (ofNode "root" barred)).map (dividers false), count = 7 :=
      List.forall_mem_map.2 h.cells
    rw [height] at hseven
    exact absurd (hseven 8 (by simp)) (by decide)

end Documentation

end DataSchema
