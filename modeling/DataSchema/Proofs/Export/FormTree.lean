import DataSchema.Export.Form
import DataSchema.Proofs.Node.Steps

/-!
# Forms are closed trees

The fields of a form stand in one list, every field in front of those it contains, and refer to each
other by ids. A dict without keys or a list without elements has no field, and neither has whatever
is in it. What is left still fits together: every id that a field mentions belongs to a field
further down, and every field but the first is contained in the one that it names as its parent.

All kinds of nodes work alike here. A node that has a field has parts, and its fields are its own
field and those of the parts, which only see the id of their parent.
-/

namespace DataSchema

namespace Node

/-- The nodes whose fields follow that of the node, with their names; nothing
if the node has no field. -/
def parts? : Node → Option (List (String × Node))
  | .dict _ (some keys) _ _ => if keys.isEmpty then none else some keys
  | .dict _ none _ _ => none
  | .list _ items _ => items.map fun item => [("item", item)]
  | _ => some []

theorem mem_children_of_parts? {node : Node} {parts : List (String × Node)} {part : String × Node}
    (h : node.parts? = some parts) (hpart : part ∈ parts) : part.2 ∈ node.children := by
  cases node with
  | str | int | bool =>
    cases h
    cases hpart
  | dict a keys dynamicKeys other =>
    cases keys with
    | none => cases h
    | some keys =>
      obtain ⟨-, ⟨⟩⟩ := Option.ite_none_left_eq_some.1 h
      exact List.mem_append_left _ (List.mem_map_of_mem hpart)
  | list a items c =>
    obtain ⟨item, rfl, rfl⟩ := Option.map_eq_some_iff.1 h
    rw [List.mem_singleton.1 hpart]
    exact List.mem_singleton_self item

end Node

namespace FormField

variable {name : String} {parent : Option String} {node : Node} {parts : List (String × Node)}

def idOf (parent : Option String) (name : String) : String :=
  match parent with
  | some parent => parent ++ "-" ++ name
  | none => name

/-- The ids of other fields that a field mentions, besides that of its parent. -/
def mentioned (field : FormField) : List String :=
  field.members ++ field.baseField.toList ++ field.key.toList

/-- The field is a group with the id among its members, or a collection of elements with the id. -/
def Contains (field : FormField) (id : String) : Prop :=
  field.kind = .group ∧ id ∈ field.members ∨ field.kind = .collection ∧ field.baseField = some id

def partFields (id : String) (part : String × Node) : List FormField :=
  fields part.1 (some id) part.2

/-- What the own field of a node knows about the fields of the parts. -/
structure Heads (own : FormField) (parts : List (String × Node)) : Prop where
  contains : ∀ part ∈ parts, ∀ first ∈ (partFields own.id part).head?, own.Contains first.id
  members : ∀ id ∈ own.members ++ own.baseField.toList, ∃ part ∈ parts,
    ∃ first ∈ (partFields own.id part).head?, first.id = id
  key : ∀ key ∈ own.key, own.kind = .collection ∧ ∃ part ∈ parts,
    ∃ first ∈ (partFields own.id part).head?,
    own.baseField = some first.id ∧ first.kind = .group ∧ key ∈ first.members

theorem keyFields_eq_map (id : String) (keys : List (String × Node)) :
    keyFields id keys = keys.map (partFields id) := by
  induction keys with
  | nil => rfl
  | cons entry rest ih => rw [keyFields, ih, List.map_cons, partFields]

theorem fields_of_parts?_eq_none (h : node.parts? = none) : fields name parent node = [] := by
  cases node with
  | str | int | bool => cases h
  | dict a keys dynamicKeys other =>
    cases keys with
    | none => rfl
    | some keys =>
      have hempty : keys.isEmpty = true := by simpa [Node.parts?] using h
      rw [fields]
      exact if_pos hempty
  | list a items c =>
    rw [Option.map_eq_none_iff.1 h]
    rfl

theorem Heads.of_mentioned_eq_nil {own : FormField} (h : own.mentioned = []) : Heads own [] := by
  simp only [mentioned, List.append_eq_nil_iff, Option.toList_eq_nil_iff] at h
  refine ⟨nofun, ?_, ?_⟩
  · simp [h.1.1, h.1.2]
  · simp [h.2]

theorem heads_group {keys : List (String × Node)} {own : FormField} (hkind : own.kind = .group)
    (hmembers : own.members = (keyFields own.id keys).filterMap fun fields => fields.head?.map
      FormField.id) (hbase : own.baseField = none) (hkey : own.key = none) : Heads own keys := by
  have hmem : ∀ id, id ∈ own.members ↔ ∃ part ∈ keys, ∃ first ∈ (partFields own.id part).head?,
      first.id = id := by
    intro id
    simp [hmembers, keyFields_eq_map]
  refine ⟨?_, ?_, ?_⟩
  · intro part hpart first hfirst
    exact .inl ⟨hkind, (hmem first.id).2 ⟨part, hpart, first, hfirst, rfl⟩⟩
  · intro id hid
    rw [hbase, Option.toList_none, List.append_nil] at hid
    exact (hmem id).1 hid
  · simp [hkey]

theorem heads_withBase {collection : FormField} {primaryKey : Option String} {item : Node}
    (hkind : collection.kind = .collection) (hmembers : collection.members = [])
    (hbase : collection.baseField = none) (hkey : collection.key = none) :
    Heads (collection.withBase primaryKey (partFields collection.id ("item", item)).head?)
      [("item", item)] := by
  cases hfirst : (partFields collection.id ("item", item)).head? with
  | none =>
    refine ⟨?_, ?_, ?_⟩
    · simp [withBase, hfirst]
    · simp [withBase, hmembers, hbase]
    · simp [withBase, hkey]
  | some base =>
    refine ⟨?_, ?_, ?_⟩
    · simp [withBase, hfirst, Contains, hkind]
    · simp [withBase, hfirst, hmembers]
    · intro key hkey
      obtain ⟨primary, -, hprimary⟩ := Option.bind_eq_some_iff.1 hkey
      obtain ⟨hgroup, ⟨⟩⟩ := Option.ite_none_right_eq_some.1 hprimary
      exact ⟨hkind, _, List.mem_singleton_self _, base, hfirst, rfl, hgroup.1, hgroup.2⟩

theorem fields_of_parts? (h : node.parts? = some parts) (name : String) (parent : Option String) :
    ∃ own, fields name parent node = own :: parts.flatMap (partFields own.id) ∧
      own.id = idOf parent name ∧ own.parent = parent ∧ Heads own parts := by
  cases node with
  | str a c =>
    cases h
    exact ⟨_, rfl, rfl, rfl, .of_mentioned_eq_nil rfl⟩
  | int a c =>
    cases h
    exact ⟨_, rfl, rfl, rfl, .of_mentioned_eq_nil rfl⟩
  | bool a c =>
    cases h
    exact ⟨_, rfl, rfl, rfl, .of_mentioned_eq_nil rfl⟩
  | dict a keys dynamicKeys other =>
    cases keys with
    | none => cases h
    | some keys =>
      obtain ⟨hempty, ⟨⟩⟩ := Option.ite_none_left_eq_some.1 h
      let group : FormField :=
        { bare (.dict a (some parts) dynamicKeys other) name parent .group with
          members := (keyFields (idOf parent name) parts).filterMap fun fields =>
            fields.head?.map FormField.id }
      have hfields : fields name parent (.dict a (some parts) dynamicKeys other) =
          group :: (keyFields group.id parts).flatten := by
        rw [fields]
        exact if_neg hempty
      refine ⟨group, ?_, rfl, rfl, heads_group rfl rfl rfl rfl⟩
      rw [hfields, keyFields_eq_map, List.flatMap_def]
  | list a items c =>
    obtain ⟨item, rfl, rfl⟩ := Option.map_eq_some_iff.1 h
    let collection := bare (.list a (some item) c) name parent .collection
    have hkept : ∀ base, (collection.withBase c.primaryKey base).id = collection.id ∧
        (collection.withBase c.primaryKey base).parent = collection.parent := by
      intro base
      cases base <;> exact ⟨rfl, rfl⟩
    refine ⟨collection.withBase c.primaryKey (partFields collection.id ("item", item)).head?, ?_,
      (hkept _).1, (hkept _).2, heads_withBase rfl rfl rfl rfl⟩
    rw [List.flatMap_singleton, (hkept _).1]
    rfl

/-! ### Places in the list of fields -/

/-- What the field mentions is found among the fields behind it. A key is a member of the
elements of a collection. -/
structure RefersTo (field : FormField) (after : List FormField) : Prop where
  mentioned : ∀ id ∈ field.mentioned, ∃ target ∈ after, target.id = id
  key : ∀ key ∈ field.key, field.kind = .collection ∧
    ∃ base ∈ after, field.baseField = some base.id ∧ base.kind = .group ∧ key ∈ base.members

/-- The parent of the field is among the fields in front of it, and contains it. -/
def IsWithin (before : List FormField) (field : FormField) : Prop :=
  ∃ owner ∈ before, field.parent = some owner.id ∧ owner.Contains field.id

/-- Every field of the list fits between those in front of it and those behind it; the given ones
stand in front of the list. -/
def FitsBelow (above list : List FormField) : Prop :=
  ∀ before field after, list = before ++ field :: after →
    field.RefersTo after ∧ field.IsWithin (above ++ before)

section Places

variable {above above' after after' list list' : List FormField} {field : FormField}

theorem RefersTo.mono (h : field.RefersTo after) (hsubset : after ⊆ after') :
    field.RefersTo after' := by
  constructor
  · intro id hid
    obtain ⟨target, htarget, heq⟩ := h.mentioned id hid
    exact ⟨target, hsubset htarget, heq⟩
  · intro key hkey
    obtain ⟨hkind, base, hbase, hgroup⟩ := h.key key hkey
    exact ⟨hkind, base, hsubset hbase, hgroup⟩

theorem IsWithin.mono (h : field.IsWithin above) (hsubset : above ⊆ above') :
    field.IsWithin above' := by
  obtain ⟨owner, howner, hcontains⟩ := h
  exact ⟨owner, hsubset howner, hcontains⟩

theorem FitsBelow.nil : FitsBelow above [] := by
  intro before field after h
  exact absurd h.symm (List.append_ne_nil_of_right_ne_nil before (List.cons_ne_nil _ _))

theorem FitsBelow.cons (hrefers : field.RefersTo list) (hwithin : field.IsWithin above)
    (hrest : FitsBelow [field] list) :
    FitsBelow above (field :: list) := by
  intro before found after h
  rcases List.cons_eq_append_iff.1 h with ⟨rfl, hfound⟩ | ⟨rest, rfl, hlist⟩
  · cases hfound
    rw [List.append_nil]
    exact ⟨hrefers, hwithin⟩
  · obtain ⟨hrefers', hwithin'⟩ := hrest rest found after hlist
    exact ⟨hrefers', hwithin'.mono (List.subset_append_right above _)⟩

theorem FitsBelow.append (h : FitsBelow above list) (h' : FitsBelow above list') :
    FitsBelow above (list ++ list') := by
  have hsubset : ∀ rest, above ++ rest ⊆ above ++ (list ++ rest) := by simp
  intro before field after hlist
  rcases List.append_eq_append_iff.1 hlist with ⟨rest, rfl, hrest⟩ | ⟨rest, rfl, hrest⟩
  · obtain ⟨hrefers, hwithin⟩ := h' rest field after hrest
    exact ⟨hrefers, hwithin.mono (hsubset rest)⟩
  · rcases List.cons_eq_append_iff.1 hrest with ⟨rfl, rfl⟩ | ⟨rest, rfl, rfl⟩
    · obtain ⟨hrefers, hwithin⟩ := h' [] field after rfl
      exact ⟨hrefers, hwithin.mono (by simp)⟩
    · obtain ⟨hrefers, hwithin⟩ := h before field rest rfl
      exact ⟨hrefers.mono (List.subset_append_left _ _), hwithin⟩

theorem FitsBelow.flatMap {α : Type} {items : List α} {write : α → List FormField}
    (h : ∀ item ∈ items, FitsBelow above (write item)) : FitsBelow above (items.flatMap write) := by
  induction items with
  | nil => exact .nil
  | cons item rest ih =>
    rw [List.forall_mem_cons] at h
    exact h.1.append (ih h.2)

end Places

/-! ### The fields of a node -/

/-- The own field comes first, refers to the others, and has all of them below it. -/
def Leads (own : FormField) (below : List FormField) : Prop :=
  own.RefersTo below ∧ FitsBelow [own] below

/-- What the own field knows about the parts is true of the whole list when the parts
are in order themselves. -/
theorem Heads.leads {own : FormField} (h : Heads own parts) (hparent : ∀ part ∈ parts,
      ∀ first ∈ (partFields own.id part).head?, first.parent = some own.id)
    (hparts : ∀ part ∈ parts, ∀ first below, partFields own.id part = first :: below →
      Leads first below) :
    Leads own (parts.flatMap (partFields own.id)) := by
  have hmem : ∀ part ∈ parts, ∀ first ∈ (partFields own.id part).head?,
      first ∈ parts.flatMap (partFields own.id) := by
    intro part hpart first hfirst
    exact List.mem_flatMap.2 ⟨part, hpart, List.mem_of_mem_head? hfirst⟩
  refine ⟨⟨?_, ?_⟩, .flatMap fun part hpart => ?_⟩
  · intro id hid
    rcases List.mem_append.1 hid with hmember | hkey
    · obtain ⟨part, hpart, first, hfirst, heq⟩ := h.members id hmember
      exact ⟨first, hmem part hpart first hfirst, heq⟩
    · -- The key is a member of the elements' group, so the fields of this group have it.
      obtain ⟨-, part, hpart, first, hfirst, -, -, hmember⟩ := h.key id (Option.mem_toList.1 hkey)
      obtain ⟨below, hfields⟩ := List.head?_eq_some_iff.1 hfirst
      obtain ⟨hrefers, -⟩ := hparts part hpart first below hfields
      obtain ⟨target, htarget, heq⟩ := hrefers.mentioned id (by simp [mentioned, hmember])
      refine ⟨target, List.mem_flatMap.2 ⟨part, hpart, ?_⟩, heq⟩
      rw [hfields]
      exact List.mem_cons_of_mem first htarget
  · intro key hkey
    obtain ⟨hkind, part, hpart, first, hfirst, hbase⟩ := h.key key hkey
    exact ⟨hkind, first, hmem part hpart first hfirst, hbase⟩
  · cases hfields : partFields own.id part with
    | nil => exact .nil
    | cons first below =>
      have hfirst : first ∈ (partFields own.id part).head? := by rw [hfields]; rfl
      obtain ⟨hrefers, hfits⟩ := hparts part hpart first below hfields
      exact .cons hrefers ⟨own, List.mem_singleton_self own, hparent part hpart first hfirst,
          h.contains part hpart first hfirst⟩
        hfits

theorem parent_of_fields {own : FormField} {below : List FormField}
    (h : fields name parent node = own :: below) :
    own.parent = parent := by
  cases hparts : node.parts? with
  | none =>
    rw [fields_of_parts?_eq_none hparts] at h
    cases h
  | some parts =>
    obtain ⟨own', hfields, -, hparent, -⟩ := fields_of_parts? hparts name parent
    rw [hfields] at h
    cases h
    exact hparent

theorem leads_of_fields {own : FormField} {below : List FormField}
    (h : fields name parent node = own :: below) :
    Leads own below := by
  induction node using Node.inductionOnChildren generalizing name parent own below with
  | h node ih =>
    cases hparts : node.parts? with
    | none =>
      rw [fields_of_parts?_eq_none hparts] at h
      cases h
    | some parts =>
      obtain ⟨own', hfields, -, -, hheads⟩ := fields_of_parts? hparts name parent
      rw [hfields] at h
      cases h
      refine hheads.leads (fun part _ first hfirst => ?_) fun part hpart first below hbelow => ?_
      · obtain ⟨below, hbelow⟩ := List.head?_eq_some_iff.1 hfirst
        exact parent_of_fields hbelow
      · exact ih part.2 (Node.mem_children_of_parts? hparts hpart) hbelow

/-- The fields of a form are a closed tree, written parents first: every id that a field mentions
is that of a later field, and every field but the first one has a parent among the earlier
fields, which contains it. -/
def ClosedTree (list : List FormField) : Prop :=
  ∀ before field after, list = before ++ field :: after → field.RefersTo after ∧
    (if before = [] then field.parent = none else field.IsWithin before)

/-- A form has fields unless its node is a dict without keys or a list without elements, and
they are a closed tree. -/
theorem closedTree_ofNode (name : String) (node : Node) :
    (ofNode name node = [] ↔ node.parts? = none) ∧ ClosedTree (ofNode name node) := by
  constructor
  · cases hparts : node.parts? with
    | none => exact iff_of_true (fields_of_parts?_eq_none hparts) rfl
    | some parts =>
      obtain ⟨own, hfields, -⟩ := fields_of_parts? hparts name none
      rw [ofNode, hfields]
      simp
  · intro before field after h
    cases before with
    | nil =>
      rw [if_pos rfl]
      exact ⟨(leads_of_fields h).1, parent_of_fields h⟩
    | cons own before =>
      rw [if_neg (List.cons_ne_nil own before)]
      exact (leads_of_fields h).2 before field after rfl

end FormField

end DataSchema
