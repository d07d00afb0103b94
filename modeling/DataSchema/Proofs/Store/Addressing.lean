import DataSchema.Proofs.Node.Steps
import DataSchema.Proofs.Store.Fragments

/-!
# Addressing nodes

Every node of a stored document can be pointed at. A position in a node is written as a path through
the fields that nodes are read from, so that following the path through the document and then
reading a node gives what reading the document and then going to the position gives. The path is
joined by slashes or by points. Cutting it again gives the same steps back, as long as none of them
is empty or contains the separator; what follows the first `#` may contain others.
-/

namespace DataSchema

/-! ### Cutting joined texts -/

namespace Text

variable {separator : Char} {texts : List String}

theorem pieces_eq_splitOn (separator : Char) (text : List Char) :
    pieces separator text = text.splitOn separator := by
  induction text with
  | nil => rw [pieces, List.splitOn_nil]
  | cons c rest ih =>
    rw [pieces, List.splitOn_cons_eq_if_modifyHead, ih]
    by_cases hc : c = separator
    · rw [if_pos hc, if_pos (beq_iff_eq.2 hc)]
    · rw [if_neg hc, if_neg (fun h => hc (beq_iff_eq.1 h))]
      cases hpieces : rest.splitOn separator with
      | nil => exact absurd hpieces (List.splitOn_ne_nil _ _)
      | cons piece others => rfl

theorem splitOnce?_append {before : List Char} (h : separator ∉ before) (after : List Char) :
    splitOnce? separator (before ++ separator :: after) = some (before, after) := by
  induction before with
  | nil => rw [List.nil_append, splitOnce?, if_pos rfl]
  | cons c rest ih =>
    obtain ⟨hne, hrest⟩ := not_or.1 (mt List.mem_cons.2 h)
    rw [List.cons_append, splitOnce?, if_neg (Ne.symm hne), ih hrest]
    rfl

/-- The texts can be told apart again after they were joined: cutting skips empty pieces. -/
def Separable (separator : Char) (texts : List String) : Prop :=
  ∀ text ∈ texts, text ≠ "" ∧ separator ∉ text.toList

instance : Decidable (Separable separator texts) :=
  inferInstanceAs (Decidable (∀ text ∈ texts, text ≠ "" ∧ separator ∉ text.toList))

theorem steps_intercalate (h : Separable separator texts) :
    steps separator ([separator].intercalate (texts.map String.toList)) = texts := by
  cases texts with
  | nil => simp [steps, pieces, List.intercalate]
  | cons first rest =>
    have hpieces : pieces separator ([separator].intercalate ((first :: rest).map String.toList)) =
        (first :: rest).map String.toList := by
      rw [pieces_eq_splitOn]
      apply List.splitOn_intercalate
      · intro piece hpiece
        obtain ⟨text, htext, rfl⟩ := List.mem_map.1 hpiece
        exact (h text htext).2
      · exact List.cons_ne_nil _ _
    have hnonempty : ∀ piece ∈ (first :: rest).map String.toList, (!piece.isEmpty) = true := by
      intro piece hpiece
      obtain ⟨text, htext, rfl⟩ := List.mem_map.1 hpiece
      simpa using (h text htext).1
    rw [steps, hpieces, List.filter_eq_self.2 hnonempty, List.map_map]
    simp

theorem steps_cons_self (separator : Char) (text : List Char) :
    steps separator (separator :: text) = steps separator text := by
  rw [steps, pieces, if_pos rfl]
  rfl

end Text

/-! ### Written references -/

namespace Reference

variable {name : String} {steps : List String}

def slashed (target : Reference) : String := target.name ++ "#/" ++ Text.join "/" target.steps

def dotted (target : Reference) : String := target.name ++ "#" ++ Text.join "." target.steps

theorem parse_of_toList {text : String} {path : List Char} (hname : name ≠ "")
    (hhash : '#' ∉ name.toList) (htext : text.toList = name.toList ++ '#' :: path) :
    parse text = .ok ⟨name, Text.steps (if path.head? = some '/' then '/' else '.') path⟩ := by
  rw [parse, htext, Text.splitOnce?_append hhash]
  cases hletters : name.toList with
  | nil => exact absurd (String.toList_eq_nil_iff.1 hletters) hname
  | cons c rest =>
    dsimp only
    rw [← hletters, String.ofList_toList]

theorem parse_slashed (hname : name ≠ "") (hhash : '#' ∉ name.toList)
    (hsteps : Text.Separable '/' steps) :
    parse (slashed ⟨name, steps⟩) = .ok ⟨name, steps⟩ := by
  have htext : (slashed ⟨name, steps⟩).toList =
      name.toList ++ '#' :: '/' :: ['/'].intercalate (steps.map String.toList) := by
    simp [slashed, Text.join, String.toList_intercalate]
  rw [parse_of_toList hname hhash htext, if_pos (by rfl), Text.steps_cons_self,
    Text.steps_intercalate hsteps]

/-- A path with points must not begin with a slash. -/
theorem parse_dotted (hname : name ≠ "") (hhash : '#' ∉ name.toList)
    (hsteps : Text.Separable '.' steps)
    (hfirst : ∀ first ∈ steps.head?, first.toList.head? ≠ some '/') :
    parse (dotted ⟨name, steps⟩) = .ok ⟨name, steps⟩ := by
  have htext : (dotted ⟨name, steps⟩).toList = name.toList ++
      '#' :: ['.'].intercalate (steps.map String.toList) := by
    simp [dotted, Text.join, String.toList_intercalate]
  have hpath : (['.'].intercalate (steps.map String.toList)).head? ≠ some '/' := by
    cases steps with
    | nil => simp [List.intercalate]
    | cons first rest =>
      have hnonempty : first.toList ≠ [] :=
        mt String.toList_eq_nil_iff.1 (hsteps first List.mem_cons_self).1
      have hhead : (['.'].intercalate ((first :: rest).map String.toList)).head? =
          first.toList.head? := by
        cases rest with
        | nil => simp
        | cons second others =>
          rw [List.map_cons, List.map_cons, List.intercalate_cons_cons, List.append_assoc,
            List.head?_append_of_ne_nil _ hnonempty]
      rw [hhead]
      exact hfirst first rfl
  rw [parse_of_toList hname hhash htext, if_neg hpath, Text.steps_intercalate hsteps]

end Reference

/-! ### Paths to nodes -/

/-- The fields through which a document leads to what the node one step below is read from. -/
def Step.fields : Step → List String
  | .key name => ["keys", name]
  | .dynamicKeys => ["dynamic_keys"]
  | .items => ["items"]

def Step.path (position : List Step) : List String := position.flatMap Step.fields

theorem Step.head?_path (position : List Step) :
    ∀ first ∈ (Step.path position).head?, first.toList.head? ≠ some '/' := by
  cases position with
  | nil => simp [Step.path]
  | cons step rest => cases step <;> simp [Step.path, Step.fields]

namespace Node

variable {entries : Entries Document} {document : Document} {node inner : Node}

theorem exists_lookup_of_keyNodes? {keys : List (String × Node)} {name : String}
    (h : keyNodes? entries = some keys) (hinner : keys.lookup name = some inner) :
    ∃ value, entries.lookup name = some value ∧ ofDocument? value = some inner := by
  induction entries generalizing keys with
  | nil =>
    cases h
    cases hinner
  | cons entry rest ih =>
    rw [keyNodes?] at h
    obtain ⟨first, hfirst, h⟩ := Option.bind_eq_some_iff.1 h
    obtain ⟨others, hothers, h⟩ := Option.bind_eq_some_iff.1 h
    cases h
    obtain ⟨key, value⟩ := entry
    rw [List.lookup_cons] at hinner ⊢
    cases hkey : name == key with
    | true =>
      rw [hkey] at hinner
      cases hinner
      exact ⟨value, rfl, hfirst⟩
    | false =>
      rw [hkey] at hinner
      exact ih hothers hinner

end Node

namespace Store

variable {store : Store} {document : Document} {node inner : Node} {name : String} {step : Step}
  {position : List Step}

theorem follow_cons_object {entries : Entries Document} {next : Document} {field : String}
    {rest : List String} (h : entries.lookup field = some next) :
    follow (.object entries) (field :: rest) = follow next rest := by
  rw [follow, Document.get?, h]

theorem follow_append {found : Document} {steps rest : List String}
    (h : follow document steps = .ok found) :
    follow document (steps ++ rest) = follow found rest := by
  induction steps generalizing document with
  | nil =>
    cases h
    rfl
  | cons step others ih =>
    rw [follow] at h
    rw [List.cons_append, follow]
    split at h
    · rename_i next hnext
      exact ih h
    · cases h

/-- What the fields of a step lead to is what the node one step below is read from. -/
theorem exists_follow_fields (hread : Node.ofDocument? document = some node)
    (hinner : node.below? step = some inner) :
    ∃ found, follow document step.fields = .ok found ∧ Node.ofDocument? found = some inner := by
  have hfield : ∀ {entries : Entries Document} {field : String},
      Field.optional Node.ofDocument? field entries = some (some inner) →
        ∃ found, follow (.object entries) [field] = .ok found ∧
          Node.ofDocument? found = some inner := by
    intro entries field hoptional
    obtain ⟨value, hlookup, hvalue⟩ := Field.optional_eq_some_some hoptional
    exact ⟨value, follow_cons_object hlookup, hvalue⟩
  cases document with
  | object entries =>
    cases Node.ofDocument?_object_eq_some_iff.1 hread with
    | str | int | bool => cases step <;> cases hinner
    | @dict _ keys _ _ _ _ hkeys hdynamic =>
      cases step with
      | key name =>
        cases keys with
        | none => cases hinner
        | some keys =>
          obtain ⟨value, hlookup, hvalue⟩ := Field.optional_eq_some_some hkeys
          cases value with
          | object values =>
            obtain ⟨found, hname, hfound⟩ := Node.exists_lookup_of_keyNodes? hvalue hinner
            exact ⟨found, (follow_cons_object hlookup).trans (follow_cons_object hname), hfound⟩
          | _ => cases hvalue
      | dynamicKeys =>
        cases hinner
        exact hfield hdynamic
      | items => cases hinner
    | list _ _ hitems =>
      cases step with
      | items =>
        cases hinner
        exact hfield hitems
      | _ => cases hinner
  | _ => cases hread

/-- Following a path and reading a node there is reading a node and going to the position. -/
theorem exists_follow_path (hread : Node.ofDocument? document = some node)
    (hinner : node.at? position = some inner) :
    ∃ found, follow document (Step.path position) = .ok found ∧
      Node.ofDocument? found = some inner := by
  induction position generalizing document node with
  | nil =>
    cases hinner
    exact ⟨document, rfl, hread⟩
  | cons step rest ih =>
    obtain ⟨next, hnext, hrest⟩ := Option.bind_eq_some_iff.1 hinner
    obtain ⟨between, hfields, hbetween⟩ := exists_follow_fields hread hnext
    obtain ⟨found, hpath, hfound⟩ := ih hbetween hrest
    refine ⟨found, ?_, hfound⟩
    rw [Step.path, List.flatMap_cons, follow_append hfields]
    exact hpath

theorem fragment_of_parse {text : String}
    (hparse : Reference.parse text = .ok ⟨name, Step.path position⟩)
    (hdocument : store.get? name = some document) (hread : Node.ofDocument? document = some node)
    (hinner : node.at? position = some inner) : store.fragment text = .ok inner := by
  obtain ⟨found, hpath, hfound⟩ := exists_follow_path hread hinner
  exact fragment_eq_ok_iff.2 ⟨_, document, found, hparse, hdocument, hpath, hfound⟩

/-- Both ways of writing the path to a node of a stored document point at the node. -/
theorem addressed_at_positions (hname : name ≠ "") (hhash : '#' ∉ name.toList)
    (hdocument : store.get? name = some document) (hread : Node.ofDocument? document = some node)
    (hinner : node.at? position = some inner) :
    (Text.Separable '/' (Step.path position) →
      Reference.parse (Reference.slashed ⟨name, Step.path position⟩) =
        .ok ⟨name, Step.path position⟩ ∧
        store.fragment (Reference.slashed ⟨name, Step.path position⟩) = .ok inner) ∧
    (Text.Separable '.' (Step.path position) →
      Reference.parse (Reference.dotted ⟨name, Step.path position⟩) =
        .ok ⟨name, Step.path position⟩ ∧
        store.fragment (Reference.dotted ⟨name, Step.path position⟩) = .ok inner) := by
  constructor
  · intro hsteps
    have hparse := Reference.parse_slashed hname hhash hsteps
    exact ⟨hparse, fragment_of_parse hparse hdocument hread hinner⟩
  · intro hsteps
    have hparse := Reference.parse_dotted hname hhash hsteps (Step.head?_path position)
    exact ⟨hparse, fragment_of_parse hparse hdocument hread hinner⟩

def rowDocument : Document :=
  .object [("type", .string "dict"), ("keys", .object [
    ("racks#1", .object [("type", .string "list"), ("items", .object [("type", .string "dict"),
      ("dynamic_keys", .object [("type", .string "int"), ("max", .int 48)])])])])]

/-- The entry has a point in its name, and the key has a second `#`. -/
theorem addressed_at_positions_row :
    Reference.parse "row.v2#/keys/racks#1/items/dynamic_keys" =
      .ok ⟨"row.v2", ["keys", "racks#1", "items", "dynamic_keys"]⟩ ∧
    (Store.mk [("row.v2", rowDocument)] 0).fragment "row.v2#/keys/racks#1/items/dynamic_keys" =
      .ok (.int .empty ⟨none, none, some 48⟩) ∧
    Reference.parse "row.v2#keys.racks#1.items.dynamic_keys" =
      .ok ⟨"row.v2", ["keys", "racks#1", "items", "dynamic_keys"]⟩ ∧
    (Store.mk [("row.v2", rowDocument)] 0).fragment "row.v2#keys.racks#1.items.dynamic_keys" =
      .ok (.int .empty ⟨none, none, some 48⟩) := by
  obtain ⟨hslashed, hdotted⟩ :=
    @addressed_at_positions (Store.mk [("row.v2", rowDocument)] 0) rowDocument
      (.dict .empty (some [("racks#1", .list .empty (some (.dict .empty none
        (some (.int .empty ⟨none, none, some 48⟩)) none)) ⟨none, none, none⟩)]) none none)
      (.int .empty ⟨none, none, some 48⟩) "row.v2" [.key "racks#1", .items, .dynamicKeys]
      (by decide) (by decide) rfl rfl rfl
  obtain ⟨hparse, hfragment⟩ := hslashed (by decide)
  obtain ⟨hparse', hfragment'⟩ := hdotted (by decide)
  exact ⟨hparse, hfragment, hparse', hfragment'⟩

end Store

end DataSchema
