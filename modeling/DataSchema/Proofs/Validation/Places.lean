import DataSchema.Proofs.Node.Steps
import DataSchema.Proofs.Validation.Conformance

/-!
# Places in an instance

A path leads from an instance to one of its values, and from the node of the instance to the node
that governs the value there: keys lead to the static keys and the schema of all other keys,
indexes to the schema of the elements. An instance that conforms to its node does so at every
place that a node governs.
-/

namespace DataSchema

def Document.atPath? : Path → Document → Option Document
  | [], value => some value
  | .key name :: rest, value => (value.get? name).bind (atPath? rest)
  | .index position :: rest, .array elements => elements[position]?.bind (atPath? rest)
  | .index _ :: _, _ => none

/-- The node that governs the value at a path. -/
def Node.governing? : Path → Node → Option Node
  | [], node => some node
  | .key name :: rest, node => (node.child? name).bind (governing? rest)
  | .index _ :: rest, node => node.items?.bind (governing? rest)

theorem Document.atPath?_append (path rest : Path) (value : Document) :
    value.atPath? (path ++ rest) = (value.atPath? path).bind (atPath? rest) := by
  induction path generalizing value with
  | nil => rfl
  | cons segment path ih =>
    cases segment with
    | key name =>
      rw [List.cons_append, atPath?, atPath?, Option.bind_assoc]
      exact congrArg _ (funext ih)
    | index position =>
      cases value with
      | array elements =>
        rw [List.cons_append, atPath?, atPath?, Option.bind_assoc]
        exact congrArg _ (funext ih)
      | _ => rfl

theorem Node.governing?_append (path rest : Path) (node : Node) :
    node.governing? (path ++ rest) = (node.governing? path).bind (governing? rest) := by
  induction path generalizing node with
  | nil => rfl
  | cons segment path ih =>
    cases segment <;>
    · rw [List.cons_append, governing?, governing?, Option.bind_assoc]
      exact congrArg _ (funext ih)

namespace Node

variable {node inner : Node}

theorem exists_at?_of_governing? {path : Path} (h : node.governing? path = some inner) :
    ∃ steps, node.at? steps = some inner := by
  induction path generalizing node with
  | nil => exact ⟨[], h⟩
  | cons segment rest ih =>
    cases segment with
    | key name =>
      obtain ⟨child, hchild, hrest⟩ := Option.bind_eq_some_iff.1 h
      obtain ⟨step, hstep⟩ := exists_below?_of_child? hchild
      obtain ⟨steps, hsteps⟩ := ih hrest
      exact ⟨step :: steps, Option.bind_eq_some_iff.2 ⟨child, hstep, hsteps⟩⟩
    | index position =>
      obtain ⟨item, hitem, hrest⟩ := Option.bind_eq_some_iff.1 h
      obtain ⟨steps, hsteps⟩ := ih hrest
      exact ⟨.items :: steps, Option.bind_eq_some_iff.2 ⟨item, below?_of_items? hitem, hsteps⟩⟩

end Node

namespace Conforms

variable {formats : Formats} {node : Node} {required : Option String} {value inner : Document}

theorem child? {child : Node} {name : String} (h : Conforms formats node required value)
    (hchild : node.child? name = some child) (hvalue : value.get? name = some inner) :
    Conforms formats child none inner := by
  cases h with
  | dict hpresent _ hdynamic _ =>
    rcases Node.child?_eq_some hchild with hstatic | ⟨hother, hdynamicKeys⟩
    · by_cases hnull : inner = .null
      · exact hnull ▸ .null
      · exact hpresent name child hstatic inner hvalue hnull
    · exact hdynamic name inner (Entries.mem_of_lookup hvalue) hother child hdynamicKeys
  | _ => cases hvalue

/-- A conforming instance conforms at every place to the node that governs it there. -/
theorem exists_of_path {path : Path} {target : Node} (h : Conforms formats node required value)
    (hnode : node.governing? path = some target) (hvalue : value.atPath? path = some inner) :
    ∃ required, Conforms formats target required inner := by
  induction path generalizing node required value with
  | nil =>
    cases hnode
    cases hvalue
    exact ⟨required, h⟩
  | cons segment rest ih =>
    cases segment with
    | key name =>
      obtain ⟨child, hchild, hrest⟩ := Option.bind_eq_some_iff.1 hnode
      obtain ⟨below, hbelow, hinner⟩ := Option.bind_eq_some_iff.1 hvalue
      exact ih (h.child? hchild hbelow) hrest hinner
    | index position =>
      obtain ⟨item, hitem, hrest⟩ := Option.bind_eq_some_iff.1 hnode
      cases h with
      | list _ _ heach _ =>
        obtain ⟨element, helement, hinner⟩ := Option.bind_eq_some_iff.1 hvalue
        exact ih (heach item hitem element (List.mem_of_getElem? helement)) hrest hinner
      | null => cases hvalue
      | _ => cases hitem

end Conforms

end DataSchema
