import DataSchema.Proofs.MetaSchema.Writing
import DataSchema.Proofs.Resolution.Everywhere
import DataSchema.Proofs.Resolution.ReferenceCycles
import DataSchema.Proofs.Schema.Extension
import DataSchema.Proofs.Store.Filled

/-!
# Roots of loaded schemas

The root of a loaded schema is put together from the document that was loaded and from fragments of
stored documents. All of these were checked as schemas, with one exception: a reference may point
into the default of a dict, which was checked as a value and not as a schema. Without such
references the root is a legal schema within the limit of the loader.
-/

namespace DataSchema

open Resolution

/-- The reference points at the default of a node or into it. -/
def Reference.EntersDefault (text : String) : Prop :=
  ∃ target, parse text = .ok target ∧ Store.entersDefault target.steps = true

/-- No reference that is followed from the node enters a default. -/
def Node.AvoidsDefaults (store : Store) (node : Node) : Prop :=
  ∀ fragment, Relation.ReflTransGen (LeadsTo store) node fragment →
    ∀ reference ∈ fragment.references, ¬ Reference.EntersDefault reference

theorem Node.avoidsDefaults_of_known {store : Store} {node : Node} {known : String → Prop}
    (hnode : ∀ reference ∈ node.references, known reference)
    (hknown : ∀ reference, known reference →
      ¬ Reference.EntersDefault reference ∧ ∀ fragment, store.fragment reference = .ok fragment →
        ∀ reference ∈ fragment.references, known reference) : node.AvoidsDefaults store := by
  intro fragment hleads
  have hfragment : ∀ reference ∈ fragment.references, known reference := by
    induction hleads with
    | refl => exact hnode
    | tail _ hleads ih =>
      obtain ⟨reference, hreference, hfragment⟩ := hleads
      exact (hknown reference (ih reference hreference)).2 _ hfragment
  exact fun reference hreference => (hknown reference (hfragment reference hreference)).1

/-- What a reference points at is lawful unless it enters a default. -/
theorem Store.Filled.lawful_fragment {store : Store} {reference : String} {node : Node}
    (h : store.Filled) (hreference : ¬ Reference.EntersDefault reference)
    (hfragment : store.fragment reference = .ok node) : node.Lawful := by
  obtain ⟨target, document, found, hparse, hdocument, hfollow, hread⟩ :=
    fragment_eq_ok_iff.1 hfragment
  obtain ⟨limit, hlegal⟩ := h.exists_legal _ (Entries.mem_of_lookup hdocument)
  have hsteps : entersDefault target.steps = false :=
    Bool.eq_false_iff.2 fun h => hreference ⟨target, hparse, h⟩
  obtain ⟨depth, hfound⟩ := follow_legal hlegal hsteps hfollow hread
  exact hfound.lawful hread

namespace Resolution

variable {around : Surroundings} {room : Nat} {inProgress : List String} {node result : Node}
  {known : String → Prop}

/-- With lawful fragments, a lawful node is resolved to a lawful tree. -/
theorem Resolves.lawful (hknown : ∀ reference, known reference →
      ∀ fragment, around.store.fragment reference = .ok fragment →
      fragment.Lawful ∧ ∀ reference ∈ fragment.references, known reference)
    (hnode : node.Lawful) (hreferences : ∀ reference ∈ node.references, known reference)
    (h : Resolves around true room inProgress node result) : result.Lawful := by
  rw [Node.lawful_iff_everywhere] at hnode ⊢
  simp only [Node.lawful_iff_everywhere] at hknown
  exact h.everywhere Node.fieldsLawful_ofFields hknown hnode hreferences

theorem Resolves.fitsWithin (h : Resolves around true room inProgress node result) :
    result.FitsWithin room := by
  induction room generalizing inProgress node result with
  | zero => exact h
  | succ room ih =>
    obtain ⟨expanded, -, hdescends⟩ := h
    intro inner hinner
    obtain ⟨before, -, hresolves⟩ := hdescends.exists_of_mem_children hinner
    exact ih hresolves

end Resolution

namespace Loaded

variable {schema : Schema}

theorem lawful_source (h : Loaded schema) : schema.source.Lawful := by
  induction h with
  | load hload =>
    obtain ⟨-, hensure, hread, -⟩ := Loader.of_load hload
    exact (MetaSchema.ensure_eq_ok_iff.1 hensure).lawful hread
  | extend _ hextend ih =>
    obtain ⟨-, hensure, ⟨fragment, hread, hmerge⟩, -⟩ := Schema.of_extend hextend
    have hfragment : fragment.Lawful := (MetaSchema.ensure_eq_ok_iff.1 hensure).lawful hread
    exact ih.merged? hfragment (Node.merge_eq_ok_iff.1 hmerge)

/-- With a store of checked documents, the root of every loaded schema is a legal schema, however it
was put together, as long as no reference enters a default. -/
theorem check_root_eq_nil (h : Loaded schema) (hstore : schema.loader.store.Filled)
    (havoids : schema.source.AvoidsDefaults schema.loader.store) :
    MetaSchema.check schema.loader.maxDepth schema.root.toDocument = [] := by
  have hresolves := h.resolves
  -- A reference is followed when it belongs to a node that the references lead to.
  let followed (reference : String) : Prop := ∃ node,
    Relation.ReflTransGen (Node.LeadsTo schema.loader.store) schema.source node ∧
      reference ∈ node.references
  have hfollowed : ∀ reference, followed reference →
      ∀ fragment, schema.loader.store.fragment reference = .ok fragment →
      fragment.Lawful ∧ ∀ reference ∈ fragment.references, followed reference := by
    rintro reference ⟨node, hleads, hreference⟩ fragment hfragment
    refine ⟨hstore.lawful_fragment (havoids node hleads reference hreference) hfragment,
      fun other hother => ?_⟩
    exact ⟨fragment, hleads.tail ⟨reference, hreference, hfragment⟩, hother⟩
  have hlawful : schema.root.Lawful :=
    hresolves.lawful hfollowed h.lawful_source fun reference hreference =>
      ⟨schema.source, .refl, hreference⟩
  exact MetaSchema.check_eq_nil_iff.2
    (MetaSchema.legal_toDocument hlawful hresolves.references_eq_nil hresolves.fitsWithin rfl)

/-- The host of words has one reference, to a fragment without references that is no default. -/
theorem check_root_eq_nil_host : ∃ schema, Loaded schema ∧ schema.loader.store.Filled ∧
    schema.source.AvoidsDefaults schema.loader.store ∧
    MetaSchema.check schema.loader.maxDepth schema.root.toDocument = [] := by
  have hrun : (Loader.withWords.load hostDocument).toOption.any (fun schema =>
      decide (schema.source.references = ["words#/keys/word"])) = true := by decide +kernel
  have hword : (Loader.withWords.store.fragment "words#/keys/word").toOption.any (fun word =>
      decide (word.references = [])) = true := by decide +kernel
  have hparse : Reference.parse "words#/keys/word" = .ok ⟨"words", ["keys", "word"]⟩ := rfl
  have hstore : ∃ document, Loader.withWords.store = ⟨[("words", document)], defaultMaxDepth⟩ ∧
      MetaSchema.ensure defaultMaxDepth document = .ok () := ⟨_, rfl, by decide +kernel⟩
  obtain ⟨schema, hload, hreferences⟩ := exists_ok_of_any hrun
  obtain ⟨word, hfragment, hnone⟩ := exists_ok_of_any hword
  obtain ⟨document, hstore, hensure⟩ := hstore
  have hinsert : Store.empty.insert "words" document = .ok Loader.withWords.store := by
    rw [hstore]
    exact bind_eq_ok.2 ⟨(), hensure, rfl⟩
  have hloader : schema.loader = Loader.withWords := (Loader.of_load hload).1
  have hfilled : schema.loader.store.Filled := hloader ▸ .insert .empty hinsert
  have havoids : schema.source.AvoidsDefaults schema.loader.store := by
    rw [hloader]
    apply @Node.avoidsDefaults_of_known _ _ (fun reference => reference = "words#/keys/word")
    · simp [of_decide_eq_true hreferences]
    · rintro _ rfl
      refine ⟨?_, fun fragment hfragment' => ?_⟩
      · rintro ⟨target, htarget, hsteps⟩
        cases hparse.symm.trans htarget
        cases hsteps
      · cases hfragment.symm.trans hfragment'
        simp [of_decide_eq_true hnone]
  exact ⟨schema, .load hload, hfilled, havoids,
    (Loaded.load hload).check_root_eq_nil hfilled havoids⟩

end Loaded

/-- A site whose default looks like a list with an empty primary key. -/
def siteDocument : Document :=
  .object [("type", .string "dict"), ("default", .object [
    ("type", .string "list"), ("primary_key", .string "")])]

/-- The store of such a site is filled, and a loader over it takes a reference to the default. The
primary key of the root is shorter than a schema may have it. -/
theorem Loaded.exists_check_root_ne_nil :
    ∃ store schema, Store.empty.insert "site" siteDocument = .ok store ∧
      Loader.load { Loader.standard with store }
        (.object [("type", .string "list"), ("$ref", .string "site#/default")]) = .ok schema ∧
      MetaSchema.check Loader.standard.maxDepth schema.root.toDocument ≠ [] := by
  have hrun : (Store.empty.insert "site" siteDocument).toOption.any (fun store =>
      (Loader.load { Loader.standard with store } (.object [("type", .string "list"),
        ("$ref", .string "site#/default")])).toOption.any fun schema =>
          !(MetaSchema.check Loader.standard.maxDepth schema.root.toDocument).isEmpty) = true := by
    decide +kernel
  obtain ⟨store, hinsert, htest⟩ := exists_ok_of_any hrun
  obtain ⟨schema, hload, htest⟩ := exists_ok_of_any htest
  exact ⟨store, schema, hinsert, hload, by simpa using htest⟩

end DataSchema
