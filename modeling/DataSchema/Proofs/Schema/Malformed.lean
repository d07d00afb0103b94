import DataSchema.Proofs.MetaSchema.Reading
import DataSchema.Proofs.Resolution.Failures
import DataSchema.Proofs.Store.Filled

/-!
# Malformed documents

Whatever takes in a document checks it first and reports an illegal one with its first violation, or
with the place where it is too deep. A document that passes should also be read. That fails for one
form of documents alone, those with null for a key: they pass, and the reader turns them away with
an error that says nothing.
-/

namespace DataSchema

variable {loader : Loader} {schema : Schema} {document : Document}

theorem Loader.read_eq_error_iff {error : SchemaError} :
    Loader.read document = .error error ↔ Node.ofDocument? document = none ∧ error = .json := by
  rw [Loader.read]
  cases Node.ofDocument? document <;> simp [eq_comm]

theorem Loader.build_ne_json {source : Node} : loader.build source ≠ .error .json := by
  intro h
  rcases bind_eq_error h with h | ⟨outcome, -, h⟩
  · rcases Node.ofNode_or_depthExceeded_of_resolve h with h | ⟨path, h⟩ <;> cases h
  · cases h

theorem MetaSchema.ensure_ne_json {limit : Nat} :
    MetaSchema.ensure limit document ≠ .error .json := by
  intro h
  cases MetaSchema.ofDocument_of_ensure h

/-- Loading begins with the check of the document, and then reads it. -/
theorem Loader.load_eq_json_iff : loader.load document = .error .json ↔
    MetaSchema.check loader.maxDepth document = [] ∧ Node.ofDocument? document = none := by
  rw [MetaSchema.check_eq_nil_iff, ← MetaSchema.ensure_eq_ok_iff]
  constructor
  · intro h
    rcases bind_eq_error h with h | ⟨_, hensure, h⟩
    · exact absurd h MetaSchema.ensure_ne_json
    · rcases bind_eq_error h with h | ⟨source, -, h⟩
      · exact ⟨hensure, (read_eq_error_iff.1 h).1⟩
      · exact absurd h build_ne_json
  · rintro ⟨hensure, hread⟩
    have hread : read document = .error .json := read_eq_error_iff.2 ⟨hread, rfl⟩
    rw [load, hensure]
    show (read document >>= loader.build) = _
    rw [hread]
    rfl

theorem Schema.extend_eq_json_iff : schema.extend document = .error .json ↔
    MetaSchema.check schema.loader.maxDepth document = [] ∧ Node.ofDocument? document = none := by
  rw [MetaSchema.check_eq_nil_iff, ← MetaSchema.ensure_eq_ok_iff]
  constructor
  · intro h
    rcases bind_eq_error h with h | ⟨_, hensure, h⟩
    · exact absurd h MetaSchema.ensure_ne_json
    · rcases bind_eq_error h with h | ⟨overlay, -, h⟩
      · exact ⟨hensure, (Loader.read_eq_error_iff.1 h).1⟩
      · rcases bind_eq_error h with h | ⟨merged, -, h⟩
        · obtain ⟨conflict, -, h⟩ := mapError_eq_error h
          cases h
        · rcases bind_eq_error h with h | ⟨_, -, h⟩
          · exact absurd h MetaSchema.ensure_ne_json
          · exact absurd h Loader.build_ne_json
  · rintro ⟨hensure, hread⟩
    have hread : Loader.read document = .error .json := Loader.read_eq_error_iff.2 ⟨hread, rfl⟩
    rw [extend, hensure]
    simp only [hread]
    rfl

/-- An illegal document is always reported for what it is. One that passes the check is read by the
loader, by an extension and from a store, unless it has null for a key; such a document is accepted
by the store, and the others end with the bare error of the reader. -/
theorem Document.unread_iff_hasNullKey (document : Document) :
    (∀ limit, MetaSchema.check limit document = [] →
      (Node.ofDocument? document = none ↔ document.HasNullKey)) ∧
    (∀ loader : Loader, (MetaSchema.check loader.maxDepth document ≠ [] →
        ∃ error, loader.load document = .error error ∧ error.OfDocument) ∧
      (loader.load document = .error .json ↔ MetaSchema.check loader.maxDepth document = [] ∧
        document.HasNullKey)) ∧
    (∀ schema : Schema, (MetaSchema.check schema.loader.maxDepth document ≠ [] →
        ∃ error, schema.extend document = .error error ∧ error.OfDocument) ∧
      (schema.extend document = .error .json ↔
        MetaSchema.check schema.loader.maxDepth document = [] ∧ document.HasNullKey)) ∧
    (∀ (store : Store) (name : String), MetaSchema.check store.maxDepth document ≠ [] →
      ∃ error, store.insert name document = .error error ∧ error.OfDocument) ∧
    ∀ (store : Store) (name : String), store.Filled → store.get? name = some document →
      (Node.ofDocument? document = none ↔ document.HasNullKey) := by
  have hread : ∀ limit, MetaSchema.check limit document = [] →
      (Node.ofDocument? document = none ↔ document.HasNullKey) :=
    fun limit hcheck => Node.ofDocument?_eq_none_iff_of_legal (MetaSchema.check_eq_nil_iff.1 hcheck)
  have hreported : ∀ {α : Type} {limit : Nat} (next : Unit → Except SchemaError α),
      MetaSchema.check limit document ≠ [] →
      ∃ error, (MetaSchema.ensure limit document >>= next) = .error error ∧ error.OfDocument := by
    intro α limit next hcheck
    rw [MetaSchema.ensure.eq_def]
    cases hfirst : MetaSchema.check limit document with
    | nil => exact absurd hfirst hcheck
    | cons error rest =>
      exact ⟨error, rfl, MetaSchema.ofDocument_of_mem_violations (hfirst ▸ List.mem_cons_self)⟩
  refine ⟨hread, fun loader => ⟨hreported _, ?_⟩, fun schema => ⟨hreported _, ?_⟩, fun store name =>
    hreported _, ?_⟩
  · rw [Loader.load_eq_json_iff]
    exact and_congr_right (hread _)
  · rw [Schema.extend_eq_json_iff]
    exact and_congr_right (hread _)
  · intro store name hfilled hget
    obtain ⟨limit, hlegal⟩ := hfilled.exists_legal _ (Entries.mem_of_lookup hget)
    exact Node.ofDocument?_eq_none_iff_of_legal hlegal

/-- A dict whose only key has null for its node. -/
def nullKeyDocument : Document :=
  .object [("type", .string "dict"), ("keys", .object [("port", .null)])]

/-- The check has nothing to say about it, and the loader nothing but that it cannot be read. -/
theorem Document.unread_nullKey : MetaSchema.check defaultMaxDepth nullKeyDocument = [] ∧
    Node.ofDocument? nullKeyDocument = none ∧
    Loader.standard.load nullKeyDocument = .error .json := by
  have hcheck : MetaSchema.check defaultMaxDepth nullKeyDocument = [] := by decide +kernel
  have hread : Node.ofDocument? nullKeyDocument = none := by decide +kernel
  exact ⟨hcheck, hread, Loader.load_eq_json_iff.2 ⟨hcheck, hread⟩⟩

/-- A store takes it as well, and keeps something that is not read. A dict with a port is read. -/
theorem Document.unread_iff_hasNullKey_ports : nullKeyDocument.HasNullKey ∧
    Loader.standard.load nullKeyDocument = .error .json ∧
    (∃ store : Store, store.Filled ∧ store.get? "ports" = some nullKeyDocument ∧
      Node.ofDocument? nullKeyDocument = none) ∧
    ¬ portDocument.HasNullKey := by
  have hnull : nullKeyDocument.HasNullKey := .here (by decide +kernel) (.head _)
  have hcheck : MetaSchema.check defaultMaxDepth nullKeyDocument = [] := by decide +kernel
  have hport : MetaSchema.check defaultMaxDepth portDocument = [] := by decide +kernel
  have hinsert : (Store.empty.insert "ports" nullKeyDocument).toOption.any
      (fun store => decide (store.get? "ports" = some nullKeyDocument)) = true := by decide +kernel
  obtain ⟨store, hinsert, hget⟩ := exists_ok_of_any hinsert
  have hfilled : store.Filled := .insert .empty hinsert
  have hget : store.get? "ports" = some nullKeyDocument := of_decide_eq_true hget
  obtain ⟨-, hload, -, -, hstored⟩ := nullKeyDocument.unread_iff_hasNullKey
  obtain ⟨hread, -⟩ := portDocument.unread_iff_hasNullKey
  refine ⟨hnull, (hload .standard).2.2 ⟨hcheck, hnull⟩,
    ⟨store, hfilled, hget, (hstored store _ hfilled hget).2 hnull⟩, ?_⟩
  intro h
  have hnone := (hread defaultMaxDepth hport).2 h
  have hsome : (Node.ofDocument? portDocument).isSome := by decide +kernel
  simp [hnone] at hsome

end DataSchema
