import DataSchema.Proofs.Conversion.Notes

/-!
# Conversion place by place

Conversion does at a place what the node that governs it does with the value that stands
there. What stands elsewhere makes no difference, neither to the result at the place nor to
the notes about it: in a well-formed instance the notes whose paths go through the place come
from there and nowhere else.
-/

namespace DataSchema

/-! ### Notes about a place -/

namespace Note

def under (path : Path) (note : Note) : Note := { note with path := path ++ note.path }

/-- The notes about the value at a path and about what lies below it. -/
def about (path : Path) (notes : List Note) : List Note :=
  notes.filter fun note => path <+: note.path

variable {segment other : Segment} {path : Path}

theorem about_nil (notes : List Note) : about [] notes = notes := by
  simp [about]

theorem about_append (notes others : List Note) :
    about path (notes ++ others) = about path notes ++ about path others :=
  List.filter_append ..

theorem about_below_self (notes : List Note) :
    about (segment :: path) (notes.map (below segment)) =
      (about path notes).map (below segment) := by
  rw [about, List.filter_map, about]
  refine congrArg (List.map (below segment)) (List.filter_congr fun note _ => ?_)
  simp [below, List.cons_prefix_cons]

theorem about_below_of_ne (h : other ≠ segment) (notes : List Note) :
    about (segment :: path) (notes.map (below other)) = [] := by
  rw [about, List.filter_eq_nil_iff, List.forall_mem_map]
  intro note _
  simp [below, List.cons_prefix_cons, h.symm]

theorem about_flatMap_of_ne {α : Type} {list : List α} {segments : α → Segment}
    {notes : α → List Note} (h : ∀ a ∈ list, segments a ≠ segment) :
    about (segment :: path) (list.flatMap fun a => (notes a).map (below (segments a))) = [] := by
  rw [about, List.filter_flatMap, List.flatMap_eq_nil_iff]
  exact fun a ha => about_below_of_ne (h a ha) (notes a)

theorem about_flatMap_below {α : Type} {list : List α} {segments : α → Segment}
    {notes : α → List Note} (hsegments : (list.map segments).Nodup) {a : α} (ha : a ∈ list) :
    about (segments a :: path) (list.flatMap fun b => (notes b).map (below (segments b))) =
      (about path (notes a)).map (below (segments a)) := by
  obtain ⟨before, after, rfl⟩ := List.append_of_mem ha
  rw [List.map_append, List.map_cons, List.nodup_middle, List.nodup_cons, List.mem_append,
    not_or] at hsegments
  obtain ⟨⟨hbefore, hafter⟩, -⟩ := hsegments
  have hne : ∀ {others : List α}, segments a ∉ others.map segments →
      ∀ b ∈ others, segments b ≠ segments a :=
    fun hothers b hb heq => hothers (heq ▸ List.mem_map_of_mem hb)
  rw [List.flatMap_append, List.flatMap_cons, about_append, about_append, about_flatMap_of_ne (hne
    hbefore), about_flatMap_of_ne (hne hafter), about_below_self, List.nil_append, List.append_nil]

end Note

/-! ### The value at a place -/

theorem Document.WellFormed.atPath? {value inner : Document} {path : Path} (h : value.WellFormed)
    (hinner : value.atPath? path = some inner) : inner.WellFormed := by
  induction path generalizing value with
  | nil =>
    cases hinner
    exact h
  | cons segment rest ih =>
    cases segment with
    | key name =>
      obtain ⟨held, hheld, hrest⟩ := Option.bind_eq_some_iff.1 hinner
      cases value with
      | object entries => exact ih ((wellFormed_object.1 h).2 _ (Entries.mem_of_lookup hheld)) hrest
      | _ => cases hheld
    | index position =>
      cases value with
      | array elements =>
        obtain ⟨held, hheld, hrest⟩ := Option.bind_eq_some_iff.1 hinner
        exact ih (wellFormed_array.1 h held (List.mem_of_getElem? hheld)) hrest
      | _ => cases hinner

namespace Node

variable {maxDepth depth : Nat} {node target : Node} {value inner : Document} {path : Path}

/-- Converts the value at a path, counted from the depth of the node, by the
node that governs it there. -/
def convertBelow (maxDepth depth : Nat) (node : Node) (path : Path) (value : Document) :
    Document × List Note :=
  match node.governing? path with
  | some target => target.convert maxDepth (depth + path.length) value
  | none => (value, [])

theorem convertBelow_of_governing? (h : node.governing? path = some target) (inner : Document) :
    node.convertBelow maxDepth depth path inner =
      target.convert maxDepth (depth + path.length) inner := by
  rw [convertBelow, h]

theorem convertBelow_of_ungoverned (h : node.governing? path = none) (inner : Document) :
    node.convertBelow maxDepth depth path inner = (inner, []) := by
  rw [convertBelow, h]

theorem convertBelow_of_deep (hdeep : maxDepth < depth) (inner : Document) :
    node.convertBelow maxDepth depth path inner = (inner, []) := by
  unfold convertBelow
  split
  · exact convert_of_deep inner (by omega)
  · rfl

theorem convertBelow_nil (inner : Document) :
    node.convertBelow maxDepth depth [] inner = node.convert maxDepth depth inner := rfl

theorem convertBelow_cons {segment : Segment}
    (h : node.governing? (segment :: path) = target.governing? path) (inner : Document) :
    node.convertBelow maxDepth depth (segment :: path) inner =
      target.convertBelow maxDepth (depth + 1) path inner := by
  rw [convertBelow, convertBelow, h, List.length_cons, Nat.add_right_comm, Nat.add_assoc]

theorem convertBelow_key (name : String) (held : Document) :
    node.convertBelow maxDepth depth [.key name] held =
      node.convertAt maxDepth (depth + 1) name held := by
  rw [convertBelow, governing?, convertAt]
  cases node.child? name <;> rfl

/-- One step down, a value is converted by its own node, and the notes about
it get the step in front. -/
theorem convert_step {segment : Segment} {held : Document} (hvalue : value.WellFormed)
    (hheld : value.atPath? [segment] = some held) :
    (node.convert maxDepth depth value).1.atPath? [segment] =
      some (node.convertBelow maxDepth depth [segment] held).1 ∧
      Note.about (segment :: path) (node.convert maxDepth depth value).2 =
        (Note.about path (node.convertBelow maxDepth depth [segment] held).2).map
          (Note.below segment) := by
  rcases Nat.lt_or_ge maxDepth depth with hdeep | hdepth
  · rw [convert_of_deep value hdeep, convertBelow_of_deep hdeep]
    exact ⟨hheld, rfl⟩
  cases value with
  | object entries =>
    cases segment with
    | key name =>
      have hlookup : entries.lookup name = some held := (Option.bind_fun_some _).symm.trans hheld
      obtain ⟨hnodup, -⟩ := Document.wellFormed_object.1 hvalue
      rw [convert_object_eq hdepth, convertBelow_key]
      constructor
      · have hmapped := Entries.lookup_map
          (fun key value => (node.convertAt maxDepth (depth + 1) key value).1) entries name
        rw [hlookup, Option.map_some] at hmapped
        exact Option.bind_eq_some_iff.2 ⟨_, hmapped, rfl⟩
      · exact Note.about_flatMap_below (Segment.nodup_keys hnodup) (Entries.mem_of_lookup hlookup)
    | index => cases hheld
  | array values =>
    cases segment with
    | key => cases hheld
    | index position =>
      have hposition : values[position]? = some held := (Option.bind_fun_some _).symm.trans hheld
      cases hitems : node.items? with
      | some item =>
        cases node with
        | list a items c =>
          cases hitems
          have hplace : (held, position) ∈ values.zipIdx :=
            List.mk_mem_zipIdx_iff_getElem?.2 hposition
          rw [convert_array_eq hdepth]
          constructor
          · refine Option.bind_eq_some_iff.2 ⟨_, ?_, rfl⟩
            rw [List.getElem?_map, hposition, Option.map_some]
            rfl
          · exact Note.about_flatMap_below (Segment.nodup_indexes values) hplace
        | _ => cases hitems
      | none =>
        have hkept : node.LeavesAlone (.array values) := hitems
        have hungoverned : node.governing? [.index position] = none := by
          rw [governing?, hitems, Option.bind_none]
        rw [convert_of_leavesAlone hkept, convertBelow_of_ungoverned hungoverned]
        exact ⟨hheld, rfl⟩
  | _ => cases segment <;> cases hheld

/-- What conversion leaves at a path, and what it notes there and below, is what the governing node
makes of the value at the path. -/
theorem convert_at (hvalue : value.WellFormed) (hinner : value.atPath? path = some inner) :
    (node.convert maxDepth depth value).1.atPath? path =
      some (node.convertBelow maxDepth depth path inner).1 ∧
      Note.about path (node.convert maxDepth depth value).2 =
        (node.convertBelow maxDepth depth path inner).2.map (Note.under path) := by
  induction path generalizing depth node value with
  | nil =>
    cases hinner
    rw [convertBelow_nil, Note.about_nil]
    exact ⟨rfl, (List.map_id _).symm⟩
  | cons segment rest ih =>
    have hfirst : ∀ document : Document, document.atPath? (segment :: rest) =
        (document.atPath? [segment]).bind (Document.atPath? rest) :=
      Document.atPath?_append [segment] rest
    have hnodes : node.governing? (segment :: rest) =
        (node.governing? [segment]).bind (governing? rest) :=
      governing?_append [segment] rest node
    rw [hfirst] at hinner
    obtain ⟨held, hheld, hrest⟩ := Option.bind_eq_some_iff.1 hinner
    obtain ⟨hleft, habout⟩ := @convert_step maxDepth depth node value rest segment held hvalue hheld
    rw [hfirst, hleft, habout, Option.bind_some]
    cases hchild : node.governing? [segment] with
    | some child =>
      rw [hchild, Option.bind_some] at hnodes
      obtain ⟨hbelow, hnoted⟩ := @ih (depth + 1) child held (hvalue.atPath? hheld) hrest
      rw [convertBelow_of_governing? hchild, convertBelow_cons hnodes]
      refine ⟨hbelow, ?_⟩
      rw [List.length_singleton, hnoted, List.map_map]
      rfl
    | none =>
      rw [hchild, Option.bind_none] at hnodes
      rw [convertBelow_of_ungoverned hchild, convertBelow_of_ungoverned hnodes]
      exact ⟨hrest, rfl⟩

end Node

end DataSchema
