import DataSchema.Proofs.Node.Merging

/-!
# Fields of nodes

What a node says itself, apart from the nodes below it and its reference, is a number of fields with
one value each and two fields that list values. They are looked up here by name, with their values
as written, so that what merging and resolving do to fields is said once and not field by field.
-/

namespace DataSchema

/-- The fields with one value. -/
inductive ScalarField where
  | required
  | fallback | description | displayName | minLength | maxLength | min | max | pattern | format
  | convertToLowerCase | allowOtherKeys | primaryKey

inductive ListField where
  | validValues | convertTypes

namespace Node

/-- The value of a field, if the node has the field and sets it. -/
def scalar? (node : Node) : ScalarField → Option Document
  | .required => node.attributes.required.map .bool
  | .fallback => node.attributes.fallback
  | .description => node.attributes.description.map .string
  | .displayName => node.attributes.displayName.map .string
  | .minLength => match node with
    | .str _ c => c.minLength.map Field.ofLength
    | .list _ _ c => c.minLength.map Field.ofLength
    | _ => none
  | .maxLength => match node with
    | .str _ c => c.maxLength.map Field.ofLength
    | .list _ _ c => c.maxLength.map Field.ofLength
    | _ => none
  | .min => match node with
    | .int _ c => c.min.map .int
    | _ => none
  | .max => match node with
    | .int _ c => c.max.map .int
    | _ => none
  | .pattern => match node with
    | .str _ c => c.pattern.map .string
    | _ => none
  | .format => match node with
    | .str _ c => c.format.map .string
    | _ => none
  | .convertToLowerCase => match node with
    | .str _ c => c.convertToLowerCase.map .bool
    | _ => none
  | .allowOtherKeys => match node with
    | .dict _ _ _ other => other.map .bool
    | _ => none
  | .primaryKey => match node with
    | .list _ _ c => c.primaryKey.map .string
    | _ => none

def listed? (node : Node) : ListField → Option (List Document)
  | .convertTypes => node.attributes.convertTypes.map (List.map Field.ofKind)
  | .validValues => match node with
    | .str _ c => c.validValues.map (List.map .string)
    | .int _ c => c.validValues.map (List.map .int)
    | .bool _ c => c.validValues.map (List.map .bool)
    | _ => none

@[simp]
theorem scalar?_ownFields (node : Node) (field : ScalarField) :
    node.ownFields.scalar? field = node.scalar? field := by
  cases node <;> cases field <;> rfl

@[simp]
theorem listed?_ownFields (node : Node) (field : ListField) :
    node.ownFields.listed? field = node.listed? field := by
  cases node <;> cases field <;> rfl

end Node

/-! ### United lists -/

section

variable {α β : Type} [DecidableEq α] [DecidableEq β]

theorem prefix_appendMissing (first rest : List α) : first <+: appendMissing first rest := by
  unfold appendMissing
  induction rest generalizing first with
  | nil => exact List.prefix_rfl
  | cons value rest ih =>
    rw [List.foldl_cons]
    split
    · exact ih first
    · exact (List.prefix_append first [value]).trans (ih _)

theorem mem_appendMissing {first rest : List α} {value : α} :
    value ∈ appendMissing first rest ↔ value ∈ first ∨ value ∈ rest := by
  unfold appendMissing
  induction rest generalizing first with
  | nil => simp
  | cons other rest ih =>
    rw [List.foldl_cons, ih]
    split
    · rename_i hmem
      rw [List.mem_cons, ← or_assoc, or_iff_left_of_imp (b := value = other)]
      rintro rfl
      exact hmem
    · simp [or_assoc]

theorem map_appendMissing {write : α → β} (hwrite : ∀ a b, write a = write b → a = b)
    (first rest : List α) :
    (appendMissing first rest).map write = appendMissing (first.map write) (rest.map write) := by
  unfold appendMissing
  induction rest generalizing first with
  | nil => rfl
  | cons value rest ih =>
    have hmem : write value ∈ first.map write ↔ value ∈ first := by
      rw [List.mem_map]
      constructor
      · rintro ⟨other, hother, heq⟩
        exact hwrite _ _ heq ▸ hother
      · intro hvalue
        exact ⟨value, hvalue, rfl⟩
    rw [List.foldl_cons, List.map_cons, List.foldl_cons, ih]
    by_cases hvalue : value ∈ first
    · rw [if_pos hvalue, if_pos (hmem.2 hvalue)]
    · rw [if_neg hvalue, if_neg fun h => hvalue (hmem.1 h), List.map_append, List.map_singleton]

theorem map_unite {write : α → β} (hwrite : ∀ a b, write a = write b → a = b) (order : ListOrder)
    (base overlay : Option (List α)) : (order.unite base overlay).map (List.map write) =
      order.unite (base.map (List.map write)) (overlay.map (List.map write)) := by
  cases base with
  | none => cases overlay <;> rfl
  | some base =>
    cases overlay with
    | none => rfl
    | some overlay => cases order <;> exact congrArg some (map_appendMissing hwrite _ _)

theorem appendMissing_eq_self {first rest : List α} (h : ∀ value ∈ rest, value ∈ first) :
    appendMissing first rest = first := by
  unfold appendMissing
  induction rest with
  | nil => rfl
  | cons value rest ih =>
    rw [List.forall_mem_cons] at h
    rw [List.foldl_cons, if_pos h.1, ih h.2]

theorem appendMissing_append (first rest : List α) (value : α) :
    appendMissing first (rest ++ [value]) =
    if value ∈ appendMissing first rest then appendMissing first rest
      else appendMissing first rest ++ [value] := by
  rw [appendMissing, List.foldl_append]
  rfl

theorem appendMissing_assoc (first second third : List α) :
    appendMissing (appendMissing first second) third =
      appendMissing first (appendMissing second third) := by
  induction third generalizing second with
  | nil => rfl
  | cons value rest ih =>
    have hstep : (if value ∈ appendMissing first second then appendMissing first second
        else appendMissing first second ++ [value]) =
        appendMissing first (if value ∈ second then second else second ++ [value]) := by
      by_cases hvalue : value ∈ second
      · rw [if_pos hvalue, if_pos (mem_appendMissing.2 (.inr hvalue))]
      · rw [if_neg hvalue, appendMissing_append]
    rw [appendMissing, List.foldl_cons, hstep]
    exact ih _

theorem ListOrder.unite_assoc (order : ListOrder) (first second third : Option (List α)) :
    order.unite (order.unite first second) third =
      order.unite first (order.unite second third) := by
  cases third with
  | none => rfl
  | some third =>
    cases second with
    | none => cases first <;> rfl
    | some second =>
      cases first with
      | none => cases order <;> rfl
      | some first =>
        cases order with
        | baseFirst => exact congrArg some (appendMissing_assoc first second third)
        | overlayFirst => exact congrArg some (appendMissing_assoc third second first).symm

theorem ListOrder.unite_self (order : ListOrder) (values : Option (List α)) :
    order.unite values values = values := by
  cases values with
  | none => rfl
  | some values => cases order <;> exact congrArg some (appendMissing_eq_self fun _ => id)

end

/-! ### The fields of merged nodes -/

namespace Node

variable {order : ListOrder} {base overlay merged : Node}

theorem kind_merged? (h : base.merged? order overlay = some merged) :
    merged.kind = overlay.kind := by
  cases mergesTo_of_merged? h <;> rfl

theorem reference_of_merged? (h : base.merged? order overlay = some merged) :
    merged.attributes.reference = overlay.attributes.reference.or base.attributes.reference := by
  cases mergesTo_of_merged? h <;> rfl

/-- A field that the overlay sets wins. -/
theorem scalar?_of_merged? (h : base.merged? order overlay = some merged) (field : ScalarField) :
    merged.scalar? field = (overlay.scalar? field).or (base.scalar? field) := by
  cases mergesTo_of_merged? h <;> cases field <;> first | rfl | exact Option.map_or

theorem listed?_of_merged? (h : base.merged? order overlay = some merged) (field : ListField) :
    merged.listed? field = order.unite (base.listed? field) (overlay.listed? field) := by
  have hkind : ∀ a b : Kind, Field.ofKind a = Field.ofKind b → a = b := by
    intro a b h
    have hname : ∀ a b : Kind, a.name = b.name → a = b := by
      intro a b
      cases a <;> cases b <;> simp [Kind.name]
    exact hname a b (Document.string.inj h)
  cases field with
  | convertTypes => cases mergesTo_of_merged? h <;> exact map_unite hkind _ _ _
  | validValues =>
    cases mergesTo_of_merged? h with
    | str => exact map_unite (fun _ _ => Document.string.inj) _ _ _
    | int => exact map_unite (fun _ _ => Document.int.inj) _ _ _
    | bool => exact map_unite (fun _ _ => Document.bool.inj) _ _ _
    | dict | list => rfl

end Node

end DataSchema
