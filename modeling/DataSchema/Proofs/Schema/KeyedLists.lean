import Mathlib.Data.List.Nodup
import DataSchema.Proofs.Schema.Extension
import DataSchema.Proofs.Validation.Places

/-!
# Keyed lists of valid instances

A list with a primary key is an ordered map: its elements are told apart by the values they hold
under the key. In a valid instance no two elements hold the same value. That every element holds one
depends on the schema of the elements: resolution makes sure that it is a dict with this key, and
validation asks every element for it. A list without a schema for its elements asks nothing of them.
-/

namespace DataSchema

open Resolution Validation

/-! ### Primary keys are keys of the elements -/

namespace Resolution

/-- In a resolved tree the primary key of a list is a static key of its elements. -/
theorem Resolves.staticKey? {around : Surroundings} {guarded : Bool} {room : Nat}
    {inProgress : List String} {node result item : Node} {steps : List Step} {a : Attributes}
    {c : ListConstraints} {key : String} (h : Resolves around guarded room inProgress node result)
    (hlist : result.at? steps = some (.list a (some item) c)) (hkey : c.primaryKey = some key) :
    (item.staticKey? key).isSome := by
  induction steps generalizing room node result with
  | nil =>
    cases hlist
    cases room with
    | zero => exact h.elim
    | succ room =>
      obtain ⟨expanded, -, hdescends⟩ := h
      cases hdescends with
      | list _ hcheck =>
        unfold checkPrimaryKey at hcheck
        simp only [hkey] at hcheck
        by_contra hnot
        simp [hnot] at hcheck
  | cons step rest ih =>
    obtain ⟨next, hnext, hrest⟩ := Option.bind_eq_some_iff.1 hlist
    cases room with
    | zero => exact h.elim
    | succ room =>
      obtain ⟨expanded, -, hdescends⟩ := h
      have hbelow := hdescends.below? step
      rw [hnext] at hbelow
      generalize expanded.below? step = before at hbelow
      cases hbelow with
      | some hresolves => exact ih hresolves hrest

end Resolution

/-! ### Elements of valid instances -/

theorem Conforms.exists_of_required {formats : Formats} {item : Node} {key : String}
    {element : Document} (h : Conforms formats item (some key) element) (hnull : element ≠ .null)
    (hkey : (item.staticKey? key).isSome) :
    ∃ entries held, element = .object entries ∧ entries.lookup key = some held ∧ held ≠ .null := by
  cases h with
  | null => exact absurd rfl hnull
  | @dict a keys dynamicKeys other _ entries _ habsent =>
    obtain ⟨child, hchild⟩ := Option.isSome_iff_exists.1 hkey
    cases keys with
    | none => cases hchild
    | some keys =>
      by_contra hnone
      have hunset : ∀ value, entries.lookup key = some value → value = .null := by
        intro value hlookup
        by_contra hvalue
        exact hnone ⟨entries, value, rfl, hlookup, hvalue⟩
      exact (habsent key child (Entries.mem_of_lookup hchild) hunset).2 rfl
  | _ => cases hkey

/-- A list with a primary key identifies the elements of a valid instance: the values under the key
are pairwise different, and so are their texts, by which lists are merged. If the elements have a
schema, each of them is an object with a value under the key. -/
theorem Loaded.identified_of_valid {schema : Schema} {value : Document} {path : Path}
    {a : Attributes} {items : Option Node} {c : ListConstraints} {elements : List Document}
    {key : String} (h : Loaded schema) (hvalid : schema.validate value = [])
    (hnode : schema.root.governing? path = some (.list a items c))
    (hvalue : value.atPath? path = some (.array elements)) (hkey : c.primaryKey = some key) :
    (elements.filterMap (·.getSet? key)).Nodup ∧ (elements.filterMap (Merge.identity? key)).Nodup ∧
      (items.isSome → ∀ element ∈ elements, ∃ entries held,
        element = .object entries ∧ entries.lookup key = some held ∧ held ≠ .null) := by
  have hconforms := (h.applicable.findings_eq_nil_iff h.patterns_sound).1 hvalid
  obtain ⟨required, hlist⟩ := hconforms.exists_of_path hnode hvalue
  cases hlist with
  | list _ hnonNull heach hdistinct =>
    rw [hkey] at hdistinct heach
    have htexts : ((elements.filterMap (·.getSet? key)).map Document.compact).Nodup := by
      rw [List.map_filterMap]
      exact hdistinct
    refine ⟨List.Nodup.of_map _ htexts, hdistinct, fun hitems element helement => ?_⟩
    obtain ⟨item, rfl⟩ := Option.isSome_iff_exists.1 hitems
    obtain ⟨steps, hsteps⟩ := Node.exists_at?_of_governing? hnode
    have hstatic := h.resolves.staticKey? hsteps hkey
    exact (heach item rfl element helement).exists_of_required
      (hnonNull rfl element helement) hstatic

theorem Node.eq_list_of_primaryKey? {node : Node} {key : String} (h : node.primaryKey? = some key) :
    ∃ a c, node = .list a node.items? c ∧ c.primaryKey = some key := by
  cases node with
  | list a items c => exact ⟨a, c, rfl, h⟩
  | _ => cases h

/-- A list with the primary key `id` whose elements have no schema. -/
def looseList : Document := .object [("type", .string "list"), ("primary_key", .string "id")]

/-- It takes an element that does not hold the key. -/
theorem Loaded.exists_valid_unidentified : ∃ schema a c, Loaded schema ∧
    schema.root.governing? [] = some (.list a none c) ∧ c.primaryKey = some "id" ∧
    schema.validate (.array [.object []]) = [] ∧ (Document.object []).getSet? "id" = none := by
  have hrun : (Loader.standard.load looseList).toOption.any (fun schema =>
      schema.root.primaryKey? == some "id" && schema.root.items?.isNone &&
        (schema.validate (.array [.object []])).isEmpty) = true := by
    decide +kernel
  obtain ⟨schema, hload, htest⟩ := exists_ok_of_any hrun
  rw [Bool.and_eq_true, Bool.and_eq_true, beq_iff_eq, Option.isNone_iff_eq_none,
    List.isEmpty_iff] at htest
  obtain ⟨⟨hprimary, hitems⟩, hvalid⟩ := htest
  obtain ⟨a, c, hroot, hkey⟩ := Node.eq_list_of_primaryKey? hprimary
  rw [hitems] at hroot
  exact ⟨schema, a, c, .load hload, congrArg some hroot, hkey, hvalid, rfl⟩

/-- A dict of hosts, which are identified by their names and have ports, which are
identified by their numbers. -/
def portedHosts : Document :=
  .object [("type", .string "dict"), ("keys", .object [
    ("hosts", .object [("type", .string "list"), ("primary_key", .string "name"),
      ("items", .object [("type", .string "dict"), ("keys", .object [
        ("name", .object [("type", .string "str")]),
        ("ports", .object [("type", .string "list"), ("primary_key", .string "number"),
          ("items", .object [("type", .string "dict"), ("keys", .object [
            ("number", .object [("type", .string "int")])])])])])])])])]

def twoPorts : List Document := [.object [("number", .int 1)], .object [("number", .int 2)]]

/-- The ports of the second host are governed by the inner list, two levels below the hosts. -/
theorem Loaded.identified_of_valid_ports : ∃ schema a items c, Loaded schema ∧
    schema.validate (.object [("hosts", .array [.object [("name", .string "a")],
      .object [("name", .string "b"), ("ports", .array twoPorts)]])]) = [] ∧
    schema.root.governing? [.key "hosts", .index 1, .key "ports"] = some (.list a (some items) c) ∧
    c.primaryKey = some "number" ∧ (twoPorts.filterMap (·.getSet? "number")).Nodup ∧
    ∀ element ∈ twoPorts, ∃ entries held,
      element = .object entries ∧ entries.lookup "number" = some held ∧ held ≠ .null := by
  have hrun : (Loader.standard.load portedHosts).toOption.any (fun schema =>
      (schema.root.governing? [.key "hosts", .index 1, .key "ports"]).any (fun node =>
        node.primaryKey? == some "number" && node.items?.isSome) &&
      (schema.validate (.object [("hosts", .array [.object [("name", .string "a")],
        .object [("name", .string "b"), ("ports", .array twoPorts)]])])).isEmpty) = true := by
    decide +kernel
  obtain ⟨schema, hload, htest⟩ := exists_ok_of_any hrun
  rw [Bool.and_eq_true, List.isEmpty_iff, Option.any_eq_true] at htest
  obtain ⟨⟨node, hnode, hkeyed⟩, hvalid⟩ := htest
  rw [Bool.and_eq_true, beq_iff_eq] at hkeyed
  have hloaded : Loaded schema := .load hload
  obtain ⟨a, c, hlist, hkey⟩ := Node.eq_list_of_primaryKey? hkeyed.1
  obtain ⟨items, hitems⟩ := Option.isSome_iff_exists.1 hkeyed.2
  rw [hlist, hitems] at hnode
  obtain ⟨hdistinct, -, hheld⟩ := hloaded.identified_of_valid hvalid hnode rfl hkey
  exact ⟨schema, a, items, c, hloaded, hvalid, hnode, hkey, hdistinct, hheld rfl⟩

end DataSchema
