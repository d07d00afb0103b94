import DataSchema.Proofs.Resolution.Outcome
import DataSchema.Schema

/-!
# Loaded schemas can be applied

A schema is loaded from a document and then extended any number of times. Each of these steps
ends with a resolution, so all that resolution guarantees of its result holds of every loaded
schema: no instance makes validation report a problem of the schema itself, at the root or at a
node reached by navigation.
-/

namespace DataSchema

/-- The schemas that come from loading a document and extending the result. -/
inductive Loaded : Schema → Prop
  | load {loader document schema} : Loader.load loader document = .ok schema → Loaded schema
  | extend {schema fragment extended} :
      Loaded schema → schema.extend fragment = .ok extended → Loaded extended

variable {loader : Loader} {schema extended : Schema} {document : Document}

/-! ### What a schema is made of -/

theorem Loader.read_eq_ok_iff {node : Node} :
    Loader.read document = .ok node ↔ Node.ofDocument? document = some node := by
  rw [Loader.read]
  cases Node.ofDocument? document <;> simp

theorem Loader.of_build {source : Node} (h : loader.build source = .ok schema) :
    schema.loader = loader ∧ schema.source = source ∧
    source.resolve loader.surroundings = .ok (schema.root, schema.patterns) := by
  obtain ⟨⟨root, patterns⟩, hresolve, hschema⟩ := bind_eq_ok.1 h
  cases hschema
  exact ⟨rfl, rfl, hresolve⟩

theorem Loader.of_load (h : loader.load document = .ok schema) :
    schema.loader = loader ∧ MetaSchema.ensure loader.maxDepth document = .ok () ∧
    Node.ofDocument? document = some schema.source ∧
    schema.source.resolve loader.surroundings = .ok (schema.root, schema.patterns) := by
  obtain ⟨_, hensure, h⟩ := bind_eq_ok.1 h
  obtain ⟨source, hread, hbuild⟩ := bind_eq_ok.1 h
  obtain ⟨hloader, rfl, hresolve⟩ := of_build hbuild
  exact ⟨hloader, hensure, read_eq_ok_iff.1 hread, hresolve⟩

theorem Schema.of_extend (h : schema.extend document = .ok extended) :
    extended.loader = schema.loader ∧ MetaSchema.ensure schema.loader.maxDepth document = .ok () ∧
    (∃ fragment, Node.ofDocument? document = some fragment ∧
      schema.source.extend fragment [] = .ok extended.source) ∧
    extended.source.resolve schema.loader.surroundings =
      .ok (extended.root, extended.patterns) := by
  obtain ⟨_, hensure, h⟩ := bind_eq_ok.1 h
  obtain ⟨fragment, hread, h⟩ := bind_eq_ok.1 h
  obtain ⟨merged, hmerge, h⟩ := bind_eq_ok.1 h
  obtain ⟨_, -, hbuild⟩ := bind_eq_ok.1 h
  obtain ⟨hloader, rfl, hresolve⟩ := Loader.of_build hbuild
  exact ⟨hloader, hensure, ⟨fragment, Loader.read_eq_ok_iff.1 hread, mapError_eq_ok.1 hmerge⟩,
    hresolve⟩

/-! ### Loaded schemas -/

namespace Loaded

/-- The root is always what the node as written is resolved to. -/
theorem resolve_source (h : Loaded schema) :
    schema.source.resolve schema.loader.surroundings = .ok (schema.root, schema.patterns) := by
  cases h with
  | load hload =>
    obtain ⟨rfl, -, -, hresolve⟩ := Loader.of_load hload
    exact hresolve
  | extend _ hextend =>
    obtain ⟨hloader, -, -, hresolve⟩ := Schema.of_extend hextend
    exact hloader ▸ hresolve

theorem applicable_and_sound (h : Loaded schema) :
    Applicable schema.rules 0 schema.root ∧ schema.patterns.Sound :=
  Node.resolve_applicable h.resolve_source

theorem applicable (h : Loaded schema) : Applicable schema.rules 0 schema.root :=
  h.applicable_and_sound.1

theorem patterns_sound (h : Loaded schema) : schema.patterns.Sound := h.applicable_and_sound.2

end Loaded

theorem Applicable.navigate {rules : Rules} {node target : Node} {taken steps : List String}
    (h : Applicable rules 0 node) (hnavigate : Schema.navigate node taken steps = .ok target) :
    Applicable rules 0 target := by
  induction steps generalizing node taken with
  | nil =>
    cases hnavigate
    exact h
  | cons step rest ih =>
    rw [Schema.navigate] at hnavigate
    split at hnavigate
    · rename_i next hnext
      refine ih ?_ hnavigate
      unfold Schema.stepBelow? at hnext
      split at hnext
      · exact (h.child? hnext).of_le (Nat.zero_le _)
      · split at hnext
        · exact (h.items? hnext).of_le (Nat.zero_le _)
        · obtain ⟨item, hitem, hchild⟩ := Option.bind_eq_some_iff.1 hnext
          exact ((h.items? hitem).child? hchild).of_le (Nat.zero_le _)
      · cases hnext
    · cases hnavigate

/-- However a schema was loaded and extended, validation never reports a problem of the schema
itself: not at the root, and not at any node that navigation leads to. -/
theorem Loaded.category_ne_schemaError {schema : Schema} (h : Loaded schema) :
    (∀ value, ∀ finding ∈ schema.validate value, finding.problem.category ≠ .schemaError) ∧
    ∀ steps node, schema.subschema steps = .ok node →
      ∀ value, ∀ finding ∈ schema.findingsAt node value,
      finding.problem.category ≠ .schemaError := by
  have hroot := h.applicable
  refine ⟨fun value finding hfinding => hroot.category_of_mem_findings hfinding, ?_⟩
  intro steps node hnode value finding hfinding
  exact (hroot.navigate hnode).category_of_mem_findings hfinding

/-- A loader with one schema in its store, whose key `word` takes texts of small letters. -/
def Loader.withWords : Loader :=
  { Loader.standard with store := ⟨[("words", .object [("type", .string "dict"), ("keys", .object [
    ("word", .object [("type", .string "str"), ("pattern", .string "^[a-z]+$")])])])],
    defaultMaxDepth⟩ }

def hostDocument : Document :=
  .object [("type", .string "dict"), ("keys", .object [
    ("host", .object [("$ref", .string "words#/keys/word"), ("type", .string "str"),
      ("convert_to_lower_case", .bool true)])])]

def portDocument : Document :=
  .object [("type", .string "dict"), ("keys", .object [
    ("port", .object [("type", .string "int"), ("min", .int 1)])])]

/-- Loading follows the reference, turns its pattern into one that ignores case, and extending keeps
it: nothing is missing at the host. -/
theorem Loaded.category_ne_schemaError_hosts :
    ∃ schema node, Loaded schema ∧ schema.subschema ["host"] = .ok node ∧
    (∀ value, ∀ finding ∈ schema.validate value, finding.problem.category ≠ .schemaError) ∧
    ∀ value, ∀ finding ∈ schema.findingsAt node value, finding.problem.category ≠ .schemaError := by
  have hrun : (Loader.withWords.load hostDocument >>= fun schema =>
        schema.extend portDocument).toOption.any
      (fun schema => (schema.subschema ["host"]).toOption.any fun _ => true) = true := by
    decide +kernel
  obtain ⟨extended, hextended, htest⟩ := exists_ok_of_any hrun
  obtain ⟨schema, hload, hextend⟩ := bind_eq_ok.1 hextended
  obtain ⟨node, hnode, -⟩ := exists_ok_of_any htest
  have hloaded : Loaded extended := .extend (.load hload) hextend
  obtain ⟨hroot, hbelow⟩ := hloaded.category_ne_schemaError
  exact ⟨extended, node, hloaded, hnode, hroot, hbelow ["host"] node hnode⟩

end DataSchema
