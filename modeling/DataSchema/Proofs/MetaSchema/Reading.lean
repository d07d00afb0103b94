import DataSchema.Proofs.MetaSchema.Legal

/-!
# Legal documents can be read

The reader of nodes and the descriptions of the kinds say twice what a field may hold. A description
guards a reader when every value that it allows, apart from null, is read. All fields of all kinds
are guarded but one: null is allowed under `keys`, where the reader needs a node. A legal document
is read exactly when it has no such key, at any depth.
-/

namespace DataSchema

namespace MetaSchema

variable {maxDepth depth : Nat} {kind : Kind} {entries : Entries Document} {document : Document}

/-! ### Descriptions that guard readers -/

/-- Whatever the description allows is read. -/
def Guards {α : Type} (rule : Node) (read : Document → Option α) : Prop :=
  ∀ value, value ≠ .null → Conforms Formats.builtin rule none value → ∃ a, read value = some a

theorem guards_text {a : Attributes} {c : TextConstraints} : Guards (.str a c) Field.text? := by
  intro value hnull h
  cases h with
  | null => exact absurd rfl hnull
  | str => exact ⟨_, rfl⟩

theorem guards_flag {a : Attributes} {c : BoolConstraints} : Guards (.bool a c) Field.flag? := by
  intro value hnull h
  cases h with
  | null => exact absurd rfl hnull
  | bool => exact ⟨_, rfl⟩

theorem guards_word {a : Attributes} {c : IntConstraints} : Guards (.int a c) Field.word? := by
  intro value hnull h
  cases h with
  | null => exact absurd rfl hnull
  | int hallows =>
    have hword := hallows.word
    refine ⟨_, if_pos ?_⟩
    simpa [isSignedWord] using hword

/-- A length is an integer that is not negative; an integer of one word is small enough. -/
theorem guards_length {a : Attributes} {c : IntConstraints} (hmin : c.min = some 0) :
    Guards (.int a c) Field.length? := by
  intro value hnull h
  cases h with
  | null => exact absurd rfl hnull
  | int hallows =>
    have hword := hallows.word
    have hle := hallows.min 0 hmin
    refine ⟨_, if_pos ⟨hle, ?_⟩⟩
    have hcounts : (signedCount : Int) ≤ (wordCount : Int) := by decide
    omega

theorem guards_some {rule : Node} : Guards rule some := fun value _ _ => ⟨value, rfl⟩

theorem guards_kind {a : Attributes} {c : TextConstraints} {names : List String}
    (hvalues : c.validValues = some names) (hcase : c.ignoresCase = false)
    (hnames : ∀ name ∈ names, (Kind.ofName? name).isSome) :
    Guards (.str a c) Field.kind? := by
  intro value hnull h
  cases h with
  | null => exact absurd rfl hnull
  | str hallows =>
    have hlisted := hallows.listed names hvalues
    rw [hcase] at hlisted
    exact Option.isSome_iff_exists.1 (hnames _ hlisted)

theorem exists_mapM {α β : Type} {read : α → Option β} {values : List α}
    (h : ∀ value ∈ values, ∃ b, read value = some b) :
    ∃ results, values.mapM read = some results := by
  induction values with
  | nil => exact ⟨[], rfl⟩
  | cons value rest ih =>
    rw [List.forall_mem_cons] at h
    obtain ⟨first, hfirst⟩ := h.1
    obtain ⟨others, hothers⟩ := ih h.2
    exact ⟨first :: others, by simp [hfirst, hothers]⟩

theorem guards_listOf {α : Type} {a : Attributes} {item : Node} {c : ListConstraints}
    {read : Document → Option α} (hitem : Guards item read) (hkey : c.primaryKey = none) :
    Guards (.list a (some item) c) (Field.listOf read) := by
  intro value hnull h
  cases h with
  | null => exact absurd rfl hnull
  | list _ hnonNull heach =>
    rw [hkey] at heach
    exact exists_mapM fun value hvalue =>
      hitem value (hnonNull rfl value hvalue) (heach item rfl value hvalue)

/-! ### Fields of legal nodes -/

namespace FieldsLegal

variable {α : Type} {read : Document → Option α}

theorem exists_field (h : FieldsLegal kind entries) (key : String) {rule : Node}
    (hrule : field? kind key = some rule) (hguards : Guards rule read) :
    ∃ value, Field.optional read key entries = some value := by
  cases hvalue : entries.lookup key with
  | none => exact ⟨none, Field.optional_of_lookup_eq_none hvalue⟩
  | some value =>
    by_cases hnull : value = .null
    · exact ⟨none, Field.optional_of_lookup_eq_null (hnull ▸ hvalue)⟩
    · obtain ⟨rule', hrule', hconforms⟩ := h key value hvalue
      cases hrule.symm.trans hrule'
      obtain ⟨a, ha⟩ := hguards value hnull hconforms
      exact ⟨some a, by rw [Field.optional_of_lookup_eq_some hvalue hnull, ha, Option.map_some]⟩

theorem optional_eq_none (h : FieldsLegal kind entries) {key : String}
    (hnone : field? kind key = none) :
    Field.optional read key entries = some none := by
  cases hvalue : entries.lookup key with
  | none => exact Field.optional_of_lookup_eq_none hvalue
  | some value =>
    obtain ⟨rule, hrule, -⟩ := h key value hvalue
    rw [hnone] at hrule
    cases hrule

theorem exists_attributes (h : FieldsLegal kind entries) :
    ∃ a, Attributes.ofEntries? entries = some a := by
  have hreference : ∃ value, Field.optional Field.text? "$ref" entries = some value := by
    cases kind <;> exact h.exists_field "$ref" rfl guards_text
  have hrequired : ∃ value, Field.optional Field.flag? "required" entries = some value := by
    cases kind <;> exact h.exists_field "required" rfl guards_flag
  have hfallback : ∃ value, Field.optional some "default" entries = some value := by
    cases kind <;> exact h.exists_field "default" rfl guards_some
  have hdescription : ∃ value, Field.optional Field.text? "description" entries = some value := by
    cases kind <;> exact h.exists_field "description" rfl guards_text
  have hdisplayName : ∃ value, Field.optional Field.text? "display_name" entries = some value := by
    cases kind <;> exact h.exists_field "display_name" rfl guards_text
  have hconvertTypes : ∃ value, Field.optional (Field.listOf Field.kind?) "convert_types" entries =
      some value := by
    cases kind with
    | str | int | bool =>
      exact h.exists_field "convert_types" rfl (guards_listOf (guards_kind rfl rfl (by decide)) rfl)
    | dict | list => exact ⟨none, h.optional_eq_none rfl⟩
  obtain ⟨_, hreference⟩ := hreference
  obtain ⟨_, hrequired⟩ := hrequired
  obtain ⟨_, hfallback⟩ := hfallback
  obtain ⟨_, hdescription⟩ := hdescription
  obtain ⟨_, hdisplayName⟩ := hdisplayName
  obtain ⟨_, hconvertTypes⟩ := hconvertTypes
  exact ⟨⟨_, _, _, _, _, _⟩, Attributes.ofEntries?_eq_some_iff.2
    ⟨hreference, hrequired, hfallback, hdescription, hdisplayName, hconvertTypes⟩⟩

theorem exists_textConstraints (h : FieldsLegal .str entries) :
    ∃ c, TextConstraints.ofEntries? entries = some c := by
  obtain ⟨_, hvalidValues⟩ := h.exists_field "valid_values" rfl (guards_listOf guards_text rfl)
  obtain ⟨_, hminLength⟩ := h.exists_field "min_length" rfl (guards_length rfl)
  obtain ⟨_, hmaxLength⟩ := h.exists_field "max_length" rfl (guards_length rfl)
  obtain ⟨_, hpattern⟩ := h.exists_field "pattern" rfl guards_text
  obtain ⟨_, hformat⟩ := h.exists_field "format" rfl guards_text
  obtain ⟨_, hlowerCase⟩ := h.exists_field "convert_to_lower_case" rfl guards_flag
  exact ⟨⟨_, _, _, _, _, _⟩, TextConstraints.ofEntries?_eq_some_iff.2
    ⟨hvalidValues, hminLength, hmaxLength, hpattern, hformat, hlowerCase⟩⟩

theorem exists_intConstraints (h : FieldsLegal .int entries) :
    ∃ c, IntConstraints.ofEntries? entries = some c := by
  obtain ⟨_, hvalidValues⟩ := h.exists_field "valid_values" rfl (guards_listOf guards_word rfl)
  obtain ⟨_, hmin⟩ := h.exists_field "min" rfl guards_word
  obtain ⟨_, hmax⟩ := h.exists_field "max" rfl guards_word
  exact ⟨⟨_, _, _⟩, IntConstraints.ofEntries?_eq_some_iff.2 ⟨hvalidValues, hmin, hmax⟩⟩

theorem exists_boolConstraints (h : FieldsLegal .bool entries) :
    ∃ c, BoolConstraints.ofEntries? entries = some c := by
  obtain ⟨_, hvalidValues⟩ := h.exists_field "valid_values" rfl (guards_listOf guards_flag rfl)
  exact ⟨⟨_⟩, BoolConstraints.ofEntries?_eq_some_iff.2 hvalidValues⟩

theorem exists_listConstraints (h : FieldsLegal .list entries) :
    ∃ c, ListConstraints.ofEntries? entries = some c := by
  obtain ⟨_, hprimaryKey⟩ := h.exists_field "primary_key" rfl guards_text
  obtain ⟨_, hminLength⟩ := h.exists_field "min_length" rfl (guards_length rfl)
  obtain ⟨_, hmaxLength⟩ := h.exists_field "max_length" rfl (guards_length rfl)
  exact ⟨⟨_, _, _⟩, ListConstraints.ofEntries?_eq_some_iff.2 ⟨hprimaryKey, hminLength, hmaxLength⟩⟩

theorem null_or_object_of_conforms {a : Attributes} {keys : Option (List (String × Node))}
    {dynamicKeys : Option Node} {other : Option Bool}
    (h : Conforms Formats.builtin (.dict a keys dynamicKeys other) none document) :
    document = .null ∨ ∃ entries, document = .object entries := by
  cases h with
  | null => exact .inl rfl
  | dict => exact .inr ⟨_, rfl⟩

theorem null_or_object_of_lookup (h : FieldsLegal kind entries) {name : String} {a : Attributes}
    {keys : Option (List (String × Node))} {dynamicKeys : Option Node} {other : Option Bool}
    (hrule : field? kind name = some (.dict a keys dynamicKeys other))
    (hlookup : entries.lookup name = some document) :
    document = .null ∨ ∃ values, document = .object values := by
  obtain ⟨rule, hrule', hconforms⟩ := h name document hlookup
  cases hrule.symm.trans hrule'
  exact null_or_object_of_conforms hconforms

theorem null_or_object (h : FieldsLegal kind entries)
    (hmem : document ∈ Node.childDocuments kind entries) :
    document = .null ∨ ∃ values, document = .object values := by
  cases kind with
  | str | int | bool => cases hmem
  | list => exact h.null_or_object_of_lookup rfl (Option.mem_toList.1 hmem)
  | dict =>
    rcases List.mem_append.1 hmem with hmem | hmem
    · obtain ⟨entry, hentry, rfl⟩ := List.mem_map.1 hmem
      obtain ⟨values, hkeys, hentry⟩ := Node.mem_keyEntries.1 hentry
      obtain ⟨rule, hrule, hconforms⟩ := h "keys" _ hkeys
      cases hrule
      cases hconforms with
      | dict _ _ hdynamic =>
        exact null_or_object_of_conforms (hdynamic entry.1 entry.2 hentry (by simp) _ rfl)
    · exact h.null_or_object_of_lookup rfl (Option.mem_toList.1 hmem)

end FieldsLegal

end MetaSchema

/-! ### Whole documents -/

/-- Some dict node, at any depth, has null where the node of a key belongs. -/
inductive Document.HasNullKey : Document → Prop
  | here {entries : Entries Document} {key : String}
      (hkind : Node.declaredKind? entries = some .dict)
      (hmem : (key, .null) ∈ Node.keyEntries entries) : HasNullKey (.object entries)
  | inside {entries : Entries Document} {kind : Kind} {inner : Document}
      (hkind : Node.declaredKind? entries = some kind)
      (hmem : inner ∈ Node.childDocuments kind entries) (hinner : HasNullKey inner) : HasNullKey
      (.object entries)

namespace Node

variable {entries : Entries Document} {document : Document}

theorem exists_keyNodes? (h : ∀ entry ∈ entries, ∃ node, ofDocument? entry.2 = some node) :
    ∃ keys, keyNodes? entries = some keys := by
  induction entries with
  | nil => exact ⟨[], rfl⟩
  | cons entry rest ih =>
    rw [List.forall_mem_cons] at h
    obtain ⟨first, hfirst⟩ := h.1
    obtain ⟨others, hothers⟩ := ih h.2
    exact ⟨(entry.1, first) :: others, by simp [keyNodes?, hfirst, hothers]⟩

theorem exists_optional_ofDocument? {name : String}
    (h : ∀ inner ∈ entries.lookup name, inner ≠ .null → ∃ node, ofDocument? inner = some node) :
    ∃ value, Field.optional ofDocument? name entries = some value := by
  cases hvalue : entries.lookup name with
  | none => exact ⟨none, Field.optional_of_lookup_eq_none hvalue⟩
  | some value =>
    by_cases hnull : value = .null
    · exact ⟨none, Field.optional_of_lookup_eq_null (hnull ▸ hvalue)⟩
    · obtain ⟨node, hnode⟩ := h value hvalue hnull
      exact ⟨some node,
        by rw [Field.optional_of_lookup_eq_some hvalue hnull, hnode, Option.map_some]⟩

theorem exists_optional_ofKeys? (hobject : ∀ value, entries.lookup "keys" = some value →
      value = .null ∨ ∃ values, value = .object values)
    (h : ∀ entry ∈ keyEntries entries, ∃ node, ofDocument? entry.2 = some node) :
    ∃ value, Field.optional ofKeys? "keys" entries = some value := by
  cases hvalue : entries.lookup "keys" with
  | none => exact ⟨none, Field.optional_of_lookup_eq_none hvalue⟩
  | some value =>
    rcases hobject value hvalue with rfl | ⟨values, rfl⟩
    · exact ⟨none, Field.optional_of_lookup_eq_null hvalue⟩
    · rw [keyEntries, hvalue] at h
      obtain ⟨keys, hkeys⟩ := exists_keyNodes? h
      exact ⟨some keys,
        by rw [Field.optional_of_lookup_eq_some hvalue (by simp), ofKeys?, hkeys, Option.map_some]⟩

theorem exists_of_legal {maxDepth depth : Nat} (h : MetaSchema.Legal maxDepth depth document)
    (hnull : ¬ document.HasNullKey) :
    ∃ node, ofDocument? document = some node := by
  induction h with
  | @node depth kind entries _ hkind hfields hbelow ih =>
    have hchild : ∀ inner ∈ childDocuments kind entries, inner ≠ .null →
        ∃ node, ofDocument? inner = some node := by
      intro inner hinner hset
      rcases hfields.null_or_object hinner with rfl | ⟨values, rfl⟩
      · exact absurd rfl hset
      · exact ih values hinner fun h => hnull (.inside hkind hinner h)
    simp only [ofDocument?_object_eq_some_iff]
    obtain ⟨a, ha⟩ := hfields.exists_attributes
    cases kind with
    | str =>
      obtain ⟨c, hc⟩ := hfields.exists_textConstraints
      exact ⟨_, .str hkind ha hc⟩
    | int =>
      obtain ⟨c, hc⟩ := hfields.exists_intConstraints
      exact ⟨_, .int hkind ha hc⟩
    | bool =>
      obtain ⟨c, hc⟩ := hfields.exists_boolConstraints
      exact ⟨_, .bool hkind ha hc⟩
    | list =>
      obtain ⟨items, hitems⟩ := exists_optional_ofDocument? fun inner hinner =>
        hchild inner (Option.mem_toList.2 hinner)
      obtain ⟨c, hc⟩ := hfields.exists_listConstraints
      exact ⟨_, .list hkind ha hitems hc⟩
    | dict =>
      obtain ⟨dynamicKeys, hdynamic⟩ := exists_optional_ofDocument? fun inner hinner =>
        hchild inner (List.mem_append_right _ (Option.mem_toList.2 hinner))
      obtain ⟨other, hother⟩ := hfields.exists_field "allow_other_keys" rfl MetaSchema.guards_flag
      have hset : ∀ entry ∈ keyEntries entries, entry.2 ≠ .null := by
        rintro ⟨key, value⟩ hentry rfl
        exact hnull (.here hkind hentry)
      obtain ⟨keys, hkeys⟩ :=
        exists_optional_ofKeys? (fun value hvalue => hfields.null_or_object_of_lookup rfl hvalue)
          fun entry hentry => hchild entry.2 (List.mem_append_left _ (List.mem_map_of_mem hentry))
            (hset entry hentry)
      exact ⟨_, .dict hkind ha hkeys hdynamic hother⟩

theorem exists_of_mem_keyEntries {keys : Option (List (String × Node))}
    (h : Field.optional ofKeys? "keys" entries = some keys) :
    ∀ entry ∈ keyEntries entries, ∃ node, ofDocument? entry.2 = some node := by
  have hall : ∀ {values : Entries Document} {keys}, keyNodes? values = some keys →
      ∀ entry ∈ values, ∃ node, ofDocument? entry.2 = some node := by
    intro values
    induction values with
    | nil => simp
    | cons entry rest ih =>
      intro keys hkeys
      rw [keyNodes?] at hkeys
      obtain ⟨first, hfirst, hkeys⟩ := Option.bind_eq_some_iff.1 hkeys
      obtain ⟨others, hothers, -⟩ := Option.bind_eq_some_iff.1 hkeys
      exact List.forall_mem_cons.2 ⟨⟨first, hfirst⟩, ih hothers⟩
  intro entry hentry
  obtain ⟨values, hvalue, hentry⟩ := mem_keyEntries.1 hentry
  rw [Field.optional_of_lookup_eq_some hvalue (by simp)] at h
  obtain ⟨keys, hkeys, -⟩ := Option.map_eq_some_iff.1 h
  exact hall hkeys entry hentry

/-- What stands where a node belongs was read, unless it is null. -/
theorem ReadsAs.exists_of_mem_childDocuments {node : Node} {inner : Document}
    (h : ReadsAs entries node) (hinner : inner ∈ childDocuments node.kind entries)
    (hset : inner ≠ .null) : ∃ node, ofDocument? inner = some node := by
  have hfield : ∀ {name value}, Field.optional ofDocument? name entries = some value →
      inner ∈ (entries.lookup name).toList →
      ∃ node, ofDocument? inner = some node := by
    intro name value hvalue hmem
    rw [Field.optional_of_lookup_eq_some (Option.mem_toList.1 hmem) hset] at hvalue
    obtain ⟨node, hnode, -⟩ := Option.map_eq_some_iff.1 hvalue
    exact ⟨node, hnode⟩
  cases h with
  | str | int | bool => cases hinner
  | list _ _ hitems => exact hfield hitems hinner
  | dict _ _ hkeys hdynamic =>
    rcases List.mem_append.1 hinner with hinner | hinner
    · obtain ⟨entry, hentry, rfl⟩ := List.mem_map.1 hinner
      exact exists_of_mem_keyEntries hkeys entry hentry
    · exact hfield hdynamic hinner

theorem ofDocument?_eq_none_of_hasNullKey (h : document.HasNullKey) :
    ofDocument? document = none := by
  induction h with
  | here hkind hmem =>
    apply Option.eq_none_iff_forall_ne_some.2
    intro node hread
    cases ofDocument?_object_eq_some_iff.1 hread with
    | dict _ _ hkeys =>
      obtain ⟨below, hbelow⟩ := exists_of_mem_keyEntries hkeys _ hmem
      cases hbelow
    | str hother | int hother | bool hother | list hother => cases hother.symm.trans hkind
  | @inside entries kind inner hkind hmem hinner ih =>
    apply Option.eq_none_iff_forall_ne_some.2
    intro node hread
    have hreads := ofDocument?_object_eq_some_iff.1 hread
    cases hreads.kind.symm.trans hkind
    have hset : inner ≠ .null := by cases hinner <;> simp
    obtain ⟨below, hbelow⟩ := hreads.exists_of_mem_childDocuments hmem hset
    rw [ih] at hbelow
    cases hbelow

/-- A legal document is read unless there is null for a key. -/
theorem ofDocument?_eq_none_iff_of_legal {maxDepth depth : Nat}
    (h : MetaSchema.Legal maxDepth depth document) :
    ofDocument? document = none ↔ document.HasNullKey := by
  refine ⟨fun hnone => ?_, ofDocument?_eq_none_of_hasNullKey⟩
  by_contra hnull
  obtain ⟨node, hnode⟩ := exists_of_legal h hnull
  rw [hnone] at hnode
  cases hnode

end Node

end DataSchema
