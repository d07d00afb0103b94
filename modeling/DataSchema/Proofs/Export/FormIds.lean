import DataSchema.Proofs.Export.FormTree

/-!
# Ids of form fields

An id is made of the names on the way to a field, with hyphens between them. Since names may have
hyphens too, two fields can get the same id. Where that happens, it shows in one dict already: the
fields below two of its keys, each written as a form of its own under the name of the key, have an
id in common. This takes two keys of which one begins with the other and a hyphen, so a form whose
dicts have no such keys identifies its fields.
-/

namespace DataSchema

namespace FormField

variable {name : String} {parent : Option String} {node inner inner' : Node}
  {parts : List (String × Node)}

def ids (list : List FormField) : List String := list.map FormField.id

/-- The ids of a form of its own for every part. -/
def partIds (part : String × Node) : List String := ids (ofNode part.1 part.2)

/-! ### What the ids are made of -/

theorem ids_of_parts? (h : node.parts? = some parts) (name : String) (parent : Option String) :
    ids (fields name parent node) = idOf parent name :: parts.flatMap fun part =>
      ids (partFields (idOf parent name) part) := by
  obtain ⟨own, hfields, hid, -, -⟩ := fields_of_parts? h name parent
  rw [hfields, ids, List.map_cons, List.map_flatMap, hid]
  rfl

/-- Apart from the id of the own field, neither the name nor the parent shows in the ids. -/
theorem ids_fields (name : String) (parent : Option String) (node : Node) :
    ids (fields name parent node) = ids (ofNode (idOf parent name) node) := by
  cases hparts : node.parts? with
  | none => rw [ofNode, fields_of_parts?_eq_none hparts, fields_of_parts?_eq_none hparts]
  | some parts =>
    rw [ofNode, ids_of_parts? hparts, ids_of_parts? hparts]
    rfl

theorem ids_ofNode_append (before name : String) (node : Node) :
    ids (ofNode (before ++ name) node) = (ids (ofNode name node)).map (before ++ ·) := by
  induction node using Node.inductionOnChildren generalizing name with
  | h node ih =>
    cases hparts : node.parts? with
    | none =>
      rw [ofNode, ofNode, fields_of_parts?_eq_none hparts, fields_of_parts?_eq_none hparts]; rfl
    | some parts =>
      rw [ofNode, ofNode, ids_of_parts? hparts, ids_of_parts? hparts, List.map_cons,
        List.map_flatMap]
      refine congrArg _ (List.flatMap_congr fun part hpart => ?_)
      have hname : idOf (some (idOf none (before ++ name))) part.1 =
          before ++ idOf (some (idOf none name)) part.1 := by
        simp only [idOf, String.append_assoc]
      rw [partFields, partFields, ids_fields, ids_fields, hname]
      exact ih part.2 (Node.mem_children_of_parts? hparts hpart) _

theorem ids_ofNode (h : node.parts? = some parts) (name : String) :
    ids (ofNode name node) = name :: (parts.flatMap partIds).map (name ++ "-" ++ ·) := by
  rw [ofNode, ids_of_parts? h, List.map_flatMap]
  refine congrArg _ (List.flatMap_congr fun part _ => ?_)
  rw [partFields, ids_fields]
  exact ids_ofNode_append _ _ _

theorem mem_ids_ofNode {id : String} (h : id ∈ ids (ofNode name node)) :
    id = name ∨ name.toList ++ ['-'] <+: id.toList := by
  cases hparts : node.parts? with
  | none =>
    rw [ofNode, fields_of_parts?_eq_none hparts] at h
    cases h
  | some parts =>
    rw [ids_ofNode hparts] at h
    rcases List.mem_cons.1 h with hid | hrest
    · exact .inl hid
    · obtain ⟨rest, -, rfl⟩ := List.mem_map.1 hrest
      exact .inr ⟨rest.toList, by simp⟩

/-! ### Different ids -/

theorem nodup_ids_ofNode_iff (h : node.parts? = some parts) (name : String) :
    (ids (ofNode name node)).Nodup ↔
      (∀ part ∈ parts, (partIds part).Nodup) ∧
      parts.Pairwise (Function.onFun List.Disjoint partIds) := by
  have hnew : name ∉ (parts.flatMap partIds).map (name ++ "-" ++ ·) := by
    intro hmem
    obtain ⟨rest, -, heq⟩ := List.mem_map.1 hmem
    have hlength := congrArg String.length heq
    rw [String.length_append, String.length_append, show "-".length = 1 from rfl] at hlength
    omega
  have hinjective : Function.Injective (name ++ "-" ++ · : String → String) := by
    intro first second heq
    simpa using heq
  rw [ids_ofNode h, List.nodup_cons, and_iff_right hnew, List.nodup_map_iff hinjective,
    List.nodup_flatMap]

end FormField

namespace Node

open FormField

variable {node inner : Node} {step : Step} {parts : List (String × Node)} {part : String × Node}

/-- In no dict that the form shows, forms of their own for two keys have an id in common. -/
def KeysApart (node : Node) : Prop :=
  ∀ position a keys dynamicKeys other, Step.dynamicKeys ∉ position →
    node.at? position = some (.dict a (some keys) dynamicKeys other) →
      keys.Pairwise (Function.onFun List.Disjoint partIds)

theorem WellFormed.exists_below?_of_parts? (h : node.WellFormed) (hparts : node.parts? = some parts)
    (hpart : part ∈ parts) :
    ∃ step, step ≠ .dynamicKeys ∧ node.below? step = some part.2 := by
  cases h with
  | str | int | bool =>
    cases hparts
    cases hpart
  | @dict a keys dynamicKeys other hnodup =>
    cases keys with
    | none => cases hparts
    | some keys =>
      obtain ⟨-, ⟨⟩⟩ := Option.ite_none_left_eq_some.1 hparts
      exact ⟨.key part.1, by simp, Entries.lookup_of_mem hnodup hpart⟩
  | @list a items c hitems =>
    obtain ⟨item, rfl, rfl⟩ := Option.map_eq_some_iff.1 hparts
    rw [List.mem_singleton.1 hpart]
    exact ⟨.items, by simp, rfl⟩

theorem exists_parts?_of_below? (hstep : step ≠ .dynamicKeys)
    (hinner : node.below? step = some inner) :
    ∃ parts, node.parts? = some parts ∧ ∃ part ∈ parts, part.2 = inner := by
  cases node with
  | str | int | bool => cases step <;> cases hinner
  | dict a keys dynamicKeys other =>
    cases step with
    | key name =>
      cases keys with
      | none => cases hinner
      | some keys =>
        have hmem : (name, inner) ∈ keys := Entries.mem_of_lookup hinner
        exact ⟨keys, if_neg (by simpa using List.ne_nil_of_mem hmem), (name, inner), hmem, rfl⟩
    | dynamicKeys => exact absurd rfl hstep
    | items => cases hinner
  | list a items c =>
    cases step with
    | items =>
      obtain rfl : items = some inner := hinner
      exact ⟨_, rfl, _, List.mem_singleton_self _, rfl⟩
    | _ => cases hinner

theorem keysApart_iff (hparts : node.parts? = some parts) : node.KeysApart ↔
    parts.Pairwise (Function.onFun List.Disjoint partIds) ∧
      ∀ step inner, step ≠ .dynamicKeys → node.below? step = some inner → inner.KeysApart := by
  constructor
  · intro h
    constructor
    · cases node with
      | str | int | bool =>
        cases hparts
        exact .nil
      | dict a keys dynamicKeys other =>
        cases keys with
        | none => cases hparts
        | some keys =>
          obtain ⟨-, ⟨⟩⟩ := Option.ite_none_left_eq_some.1 hparts
          exact h [] a _ dynamicKeys other (List.not_mem_nil) rfl
      | list a items c =>
        obtain ⟨item, rfl, rfl⟩ := Option.map_eq_some_iff.1 hparts
        exact List.pairwise_singleton _ _
    · intro step inner hstep hinner position a keys dynamicKeys other hposition hat
      refine h (step :: position) a keys dynamicKeys other ?_
        (Option.bind_eq_some_iff.2 ⟨inner, hinner, hat⟩)
      rw [List.mem_cons, not_or]
      exact ⟨Ne.symm hstep, hposition⟩
  · rintro ⟨hhere, hbelow⟩ position a keys dynamicKeys other hposition hat
    cases position with
    | nil =>
      cases hat
      obtain ⟨-, ⟨⟩⟩ := Option.ite_none_left_eq_some.1 hparts
      exact hhere
    | cons step rest =>
      obtain ⟨inner, hinner, hat⟩ := Option.bind_eq_some_iff.1 hat
      rw [List.mem_cons, not_or] at hposition
      exact hbelow step inner (Ne.symm hposition.1) hinner rest a keys dynamicKeys other
        hposition.2 hat

theorem keysApart_of_parts?_eq_none (hparts : node.parts? = none) : node.KeysApart := by
  intro position a keys dynamicKeys other hposition hat
  cases position with
  | nil =>
    cases hat
    have hempty : keys = [] := by simpa [parts?] using hparts
    rw [hempty]
    exact .nil
  | cons step rest =>
    obtain ⟨inner, hinner, -⟩ := Option.bind_eq_some_iff.1 hat
    rw [List.mem_cons, not_or] at hposition
    obtain ⟨parts, hsome, -⟩ := exists_parts?_of_below? (Ne.symm hposition.1) hinner
    rw [hparts] at hsome
    cases hsome

/-- No key of a dict that the form shows begins with another key of it and a hyphen. -/
def KeysUnextended (node : Node) : Prop :=
  ∀ position a keys dynamicKeys other, Step.dynamicKeys ∉ position →
    node.at? position = some (.dict a (some keys) dynamicKeys other) →
      ∀ key ∈ keys.map Prod.fst, ∀ longer ∈ keys.map Prod.fst,
        ¬ (key.toList ++ ['-']) <+: longer.toList

end Node

namespace FormField

variable {name key other : String} {node inner inner' : Node} {list : List FormField}

theorem nodup_ids_iff_keysApart (h : node.WellFormed) (name : String) :
    (ids (ofNode name node)).Nodup ↔ node.KeysApart := by
  induction node using Node.inductionOnBelow generalizing name with
  | h node ih =>
    cases hparts : node.parts? with
    | none =>
      rw [ofNode, fields_of_parts?_eq_none hparts]
      exact iff_of_true List.nodup_nil (Node.keysApart_of_parts?_eq_none hparts)
    | some parts =>
      rw [nodup_ids_ofNode_iff hparts, Node.keysApart_iff hparts, and_comm]
      refine and_congr_right fun _ => ⟨?_, ?_⟩
      · intro hnodup step inner hstep hinner
        obtain ⟨parts', hparts', part, hpart, rfl⟩ := Node.exists_parts?_of_below? hstep hinner
        cases hparts.symm.trans hparts'
        exact (ih step part.2 hinner (h.below? hinner) part.1).1 (hnodup part hpart)
      · intro hbelow part hpart
        obtain ⟨step, hstep, hinner⟩ := h.exists_below?_of_parts? hparts hpart
        exact (ih step part.2 hinner (h.below? hinner) part.1).2 (hbelow step part.2 hstep hinner)

/-- Forms have no id in common when neither name is the beginning of the other before a hyphen. -/
theorem disjoint_ids (hne : key ≠ other) (hkey : ¬ key.toList ++ ['-'] <+: other.toList)
    (hother : ¬ other.toList ++ ['-'] <+: key.toList) :
    List.Disjoint (ids (ofNode key inner)) (ids (ofNode other inner')) := by
  have hshorter : ∀ {first second : String}, first.toList ++ ['-'] <+: second.toList ++ ['-'] →
      first = second ∨ first.toList ++ ['-'] <+: second.toList := by
    intro first second h
    refine (List.prefix_concat_iff.1 h).imp_left fun heq => ?_
    exact String.toList_injective (List.append_cancel_right heq)
  intro id hid hid'
  rcases mem_ids_ofNode hid with rfl | hbegins
  · rcases mem_ids_ofNode hid' with heq | hbegins'
    · exact hne heq
    · exact hother hbegins'
  · rcases mem_ids_ofNode hid' with rfl | hbegins'
    · exact hkey hbegins
    · rcases List.prefix_or_prefix_of_prefix hbegins hbegins' with h | h
      · exact (hshorter h).elim hne hkey
      · exact (hshorter h).elim (Ne.symm hne) hother

theorem keysApart_of_keysUnextended (h : node.WellFormed) (hkeys : node.KeysUnextended) :
    node.KeysApart := by
  intro position a keys dynamicKeys other hposition hat
  have hapart := hkeys position a keys dynamicKeys other hposition hat
  cases h.at? hat with
  | dict hnodup =>
    refine (List.pairwise_map.1 hnodup).imp_of_mem fun {first second} hfirst hsecond hne => ?_
    have hfirst : first.1 ∈ keys.map Prod.fst := List.mem_map_of_mem hfirst
    have hsecond : second.1 ∈ keys.map Prod.fst := List.mem_map_of_mem hsecond
    exact disjoint_ids hne (hapart _ hfirst _ hsecond) (hapart _ hsecond _ hfirst)

/-! ### Forms whose fields are identified -/

/-- No two fields have the same id, and every id that a field mentions is
that of exactly one field. -/
structure Identified (list : List FormField) : Prop where
  nodup : (ids list).Nodup
  denoted : ∀ field ∈ list, ∀ id ∈ field.mentioned ++ field.parent.toList, ∃! target,
    target ∈ list ∧ target.id = id

theorem exists_of_mentioned {field : FormField} {id : String} (hfield : field ∈ ofNode name node)
    (hid : id ∈ field.mentioned ++ field.parent.toList) :
    ∃ target ∈ ofNode name node, target.id = id := by
  cases hfields : ofNode name node with
  | nil =>
    rw [hfields] at hfield
    cases hfield
  | cons own below =>
    obtain ⟨hrefers, hfits⟩ := leads_of_fields hfields
    rw [hfields] at hfield
    rcases List.mem_cons.1 hfield with rfl | hbelow
    · rw [parent_of_fields hfields, Option.toList_none, List.append_nil] at hid
      obtain ⟨target, htarget, heq⟩ := hrefers.mentioned id hid
      exact ⟨target, List.mem_cons_of_mem _ htarget, heq⟩
    · obtain ⟨before, after, rfl⟩ := List.append_of_mem hbelow
      obtain ⟨hrefers', owner, howner, hparent, -⟩ := hfits before field after rfl
      rcases List.mem_append.1 hid with hmentioned | hid
      · obtain ⟨target, htarget, heq⟩ := hrefers'.mentioned id hmentioned
        exact ⟨target, by simp [htarget], heq⟩
      · rw [hparent, Option.toList_some, List.mem_singleton] at hid
        refine ⟨owner, ?_, hid.symm⟩
        rw [List.singleton_append] at howner
        exact List.mem_cons.2 ((List.mem_cons.1 howner).imp_right (List.mem_append_left _))

/-- A form identifies its fields exactly if, in every dict that it shows, forms for two of the keys
have no id in common; for this it is enough that no key begins with another one and a hyphen. -/
theorem identified_ofNode (h : node.WellFormed) (name : String) :
    (Identified (ofNode name node) ↔ node.KeysApart) ∧
    (node.KeysUnextended → Identified (ofNode name node)) := by
  have hiff : Identified (ofNode name node) ↔ node.KeysApart := by
    rw [← nodup_ids_iff_keysApart h name]
    refine ⟨Identified.nodup, fun hnodup => ⟨hnodup, fun field hfield id hid => ?_⟩⟩
    obtain ⟨target, htarget, heq⟩ := exists_of_mentioned hfield hid
    refine ⟨target, ⟨htarget, heq⟩, fun target' htarget' => ?_⟩
    exact List.inj_on_of_nodup_map hnodup htarget'.1 htarget (htarget'.2.trans heq.symm)
  exact ⟨hiff, fun hkeys => hiff.2 (keysApart_of_keysUnextended h hkeys)⟩

def site : Node :=
  let number := Node.int .empty ⟨none, none, none⟩
  let text := Node.str .empty ⟨none, none, none, none, none, none⟩
  .dict .empty (some [
    ("hosts", .list .empty (some (.dict .empty (some [("name", text), ("port", number)]) none none))
      ⟨some "name", none, none⟩),
    ("hosts-file", text)]) none none

/-- One key of the site begins with the other and a hyphen, and still no two
fields have the same id. -/
theorem identified_site : site.WellFormed ∧ Identified (ofNode "site" site) ∧ site.KeysApart := by
  have site_wellFormed : site.WellFormed := by
    refine .dict (by decide) (fun entry hentry => ?_) nofun
    simp only [Option.getD_some, List.mem_cons, List.not_mem_nil, or_false] at hentry
    rcases hentry with rfl | rfl
    · refine .list fun item hitem => ?_
      cases hitem
      refine .dict (by decide) (fun entry hentry => ?_) nofun
      simp only [Option.getD_some, List.mem_cons, List.not_mem_nil, or_false] at hentry
      rcases hentry with rfl | rfl
      · exact .str
      · exact .int
    · exact .str
  have site_keysApart : site.KeysApart :=
    (nodup_ids_iff_keysApart site_wellFormed "site").1 (by decide)
  exact ⟨site_wellFormed, (identified_ofNode site_wellFormed "site").1.2 site_keysApart,
    site_keysApart⟩

/-- A key that reads like the way to a key below the other key. -/
def ambiguous : Node :=
  .dict .empty (some [("a", .dict .empty (some [("b", .bool .empty ⟨none⟩)]) none none),
    ("a-b", .bool .empty ⟨none⟩)]) none none

/-- The last two fields have the id `root-a-b`. -/
theorem not_identified_ambiguous :
    ambiguous.WellFormed ∧ ¬ Identified (ofNode "root" ambiguous) := by
  constructor
  · refine .dict (by decide) (fun entry hentry => ?_) nofun
    simp only [Option.getD_some, List.mem_cons, List.not_mem_nil, or_false] at hentry
    rcases hentry with rfl | rfl
    · refine .dict (by decide) (fun entry hentry => ?_) nofun
      rw [Option.getD_some, List.mem_singleton] at hentry
      subst hentry
      exact .bool
    · exact .bool
  · intro h
    exact absurd h.nodup (by decide)

end FormField

end DataSchema
