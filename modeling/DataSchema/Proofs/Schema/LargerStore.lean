import DataSchema.Proofs.Resolution.Runs
import DataSchema.Proofs.Schema.Loaded

/-!
# Stores that grow

A store may be given further documents at any time. As long as they come under new names, every name
that the store knew still leads to the same document, so every lookup of a resolution is answered as
before. Only a reference that had no target may find one in the larger store.
-/

namespace DataSchema

/-! ### More documents -/

namespace Store

/-- The stores that come from a store by inserting legal documents, under one limit or several, and
only under names that the store does not hold. What was inserted so may be replaced again. -/
inductive GrowsTo (store : Store) : Store → Prop
  | refl : GrowsTo store store
  | withMaxDepth {larger : Store} (h : GrowsTo store larger) (maxDepth : Nat) :
      GrowsTo store (larger.withMaxDepth maxDepth)
  | insert {larger extended : Store} {name : String} {document : Document}
      (h : GrowsTo store larger)
      (hnew : store.contains name = false) (hinsert : larger.insert name document =
        .ok extended) : GrowsTo store extended

variable {store larger extended : Store} {name reference : String} {document : Document}

theorem get?_of_insert {other : String} (h : store.insert name document = .ok extended)
    (hother : other ≠ name) :
    extended.get? other = store.get? other := by
  obtain ⟨_, -, hextended⟩ := bind_eq_ok.1 h
  cases hextended
  exact Entries.lookup_insert_of_ne hother

theorem GrowsTo.get? (h : store.GrowsTo larger) (hdocument : store.get? name = some document) :
    larger.get? name = some document := by
  induction h with
  | refl => exact hdocument
  | withMaxDepth _ _ ih => exact ih
  | @insert larger extended inserted _ _ hnew hinsert ih =>
    have hother : name ≠ inserted := by
      rintro rfl
      rw [contains, hdocument] at hnew
      cases hnew
    rw [get?_of_insert hinsert hother, ih]

end Store

def SchemaError.IsReferenceNotFound (error : SchemaError) : Prop :=
  ∃ reference target, error = .referenceNotFound reference target

/-- A reference that is not missed in the store leads to the same place in the
larger one, node or not. -/
theorem Store.GrowsTo.fragment {store larger : Store}
    {reference : String} (h : store.GrowsTo larger)
    (hfound : ∀ error, store.fragment reference = .error error → ¬ error.IsReferenceNotFound) :
    larger.fragment reference = store.fragment reference := by
  cases hparse : Reference.parse reference with
  | error => simp only [Store.fragment, hparse, bind, Except.bind]
  | ok target =>
    cases hdocument : store.get? target.name with
    | some document =>
      simp only [Store.fragment, hparse, hdocument, h.get? hdocument, bind, Except.bind]
    | none =>
      have hmissed : store.fragment reference =
          .error (.referenceNotFound reference (.schema target.name)) := by
        simp only [Store.fragment, hparse, hdocument, bind, Except.bind]
      exact absurd ⟨_, _, rfl⟩ (hfound _ hmissed)

/-! ### Resolving over a larger store -/

namespace Resolution

variable {store larger : Store} {formats : Formats} {maxDepth : Nat} {guarded : Bool}

theorem agrees_fragment (h : store.GrowsTo larger) (reference : String) :
    AgreesUnless SchemaError.IsReferenceNotFound Node (lift (store.fragment reference))
      (lift (larger.fragment reference)) := by
  intro before hfound
  rw [h.fragment]
  intro error herror
  exact hfound error (by rw [lift, herror]; rfl)

/-- Every lookup is answered by both stores alike until one of them fails
for the lack of a target. -/
theorem agrees_resolveWithin_of_growsTo (h : store.GrowsTo larger) (room : Nat)
    (inProgress : List String) (path : Path) (node : Node) :
    AgreesUnless SchemaError.IsReferenceNotFound Node
      (resolveWithin ⟨store, formats, maxDepth⟩ guarded room inProgress path node)
      (resolveWithin ⟨larger, formats, maxDepth⟩ guarded room inProgress path node) := by
  have hagrees := compatible_agreesUnless SchemaError.IsReferenceNotFound
  induction room generalizing inProgress path node with
  | zero => exact hagrees.refl _
  | succ room ih =>
    rw [resolveWithin, resolveWithin]
    apply hagrees.bind
    · exact hagrees.expand (agrees_fragment h)
        (fun inProgress node => ih inProgress path node) path node
    · intro expanded
      exact hagrees.descend (ih inProgress) formats path expanded

end Resolution

/-! ### Loading over a larger store -/

def Loader.over (loader : Loader) (store : Store) : Loader := { loader with store := store }

/-- The schema with another store, into which references of later extensions point. -/
def Schema.over (schema : Schema) (store : Store) : Schema :=
  { schema with loader := schema.loader.over store }

variable {loader : Loader} {larger : Store}

theorem Loader.build_of_growsTo {source : Node} (h : loader.store.GrowsTo larger)
    (hfound : ∀ error, loader.build source = .error error → ¬ error.IsReferenceNotFound) :
    (loader.over larger).build source = (loader.build source).map (·.over larger) := by
  have hresolve : source.resolve (loader.over larger).surroundings =
      source.resolve loader.surroundings := by
    refine Resolution.agrees_resolveWithin_of_growsTo h _ [] [] source [] fun error herror =>
      hfound error ?_
    change (source.resolve loader.surroundings >>= _) = _
    rw [show source.resolve loader.surroundings = .error error from herror]
    rfl
  rw [Loader.build, Loader.build, hresolve]
  cases source.resolve loader.surroundings <;> rfl

/-- Putting further legal documents into the store, under names that it does not hold, never
breaks a schema: loading a document gives the schema or the error that it gave before, and
nothing but the store that the schema keeps is different. Only where a reference had no target
the outcome may change. -/
theorem Loader.load_of_growsTo (h : loader.store.GrowsTo larger) (document : Document)
    (hfound : ∀ reference target, loader.load document ≠
      .error (.referenceNotFound reference target)) :
    (loader.over larger).load document = (loader.load document).map (·.over larger) := by
  have hload : ∀ store, (loader.over store).load document =
      ((MetaSchema.ensure loader.maxDepth document >>= fun _ => read document) >>=
        (loader.over store).build) := by
    intro store
    rw [bind_assoc]
    rfl
  have hsmall := hload loader.store
  rw [hload larger]
  change loader.load document = _ at hsmall
  cases hread : MetaSchema.ensure loader.maxDepth document >>= fun _ => read document with
  | error error =>
    rw [hread] at hsmall
    rw [hsmall]
    rfl
  | ok source =>
    rw [hread] at hsmall
    change loader.load document = loader.build source at hsmall
    rw [hsmall] at hfound ⊢
    refine build_of_growsTo h ?_
    rintro _ herror ⟨reference, target, rfl⟩
    exact hfound reference target herror

def remotePortDocument : Document := .object [("$ref", .string "ports#"), ("type", .string "int")]

/-- Where the store of words gets an entry for ports, hosts stay what they are, and the port that
had no target finds one. -/
theorem Loader.load_of_growsTo_hosts : ∃ larger schema port, withWords.store.GrowsTo larger ∧
    (∀ reference target,
      withWords.load hostDocument ≠ .error (.referenceNotFound reference target)) ∧
    withWords.load hostDocument = .ok schema ∧
    (withWords.over larger).load hostDocument = .ok (schema.over larger) ∧
    (∃ reference target,
      withWords.load remotePortDocument = .error (.referenceNotFound reference target)) ∧
    (withWords.over larger).load remotePortDocument = .ok port := by
  have hinsert : (withWords.store.insert "ports"
      (.object [("type", .string "int"), ("min", .int 1)])).toOption.any (fun larger =>
      (((withWords.over larger).load remotePortDocument).toOption.any fun _ => true) &&
        !withWords.store.contains "ports") = true := by
    decide +kernel
  have hhost : (withWords.load hostDocument).toOption.any (fun _ => true) = true := by
    decide +kernel
  have hport : (match withWords.load remotePortDocument with
      | .error (.referenceNotFound ..) => true
      | _ => false) = true := by decide +kernel
  obtain ⟨larger, hlarger, htest⟩ := exists_ok_of_any hinsert
  rw [Bool.and_eq_true, Bool.not_eq_true'] at htest
  obtain ⟨port, hfound, -⟩ := exists_ok_of_any htest.1
  obtain ⟨schema, hload, -⟩ := exists_ok_of_any hhost
  have hgrows : withWords.store.GrowsTo larger := .insert .refl htest.2 hlarger
  have hnotMissed : ∀ reference target,
      withWords.load hostDocument ≠ .error (.referenceNotFound reference target) := by
    simp [hload]
  have hsame := load_of_growsTo hgrows hostDocument hnotMissed
  rw [hload] at hsame
  refine ⟨larger, schema, port, hgrows, hnotMissed, hload, hsame, ?_, hfound⟩
  split at hport
  · rename_i reference target hmissed
    exact ⟨reference, target, hmissed⟩
  · cases hport

end DataSchema
