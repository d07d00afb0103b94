import DataSchema.Proofs.Merge.Mismatch
import DataSchema.Proofs.Schema.WellFormed

/-!
# Merging valid documents

Two documents that a schema accepts merge to one that it accepts as well, but for lists that
have become too long; and where they do not merge, the schema says nothing about the place.
Keyed lists have to be keyed by scalars: merging two elements with the same identity may
otherwise leave one with another.
-/

namespace DataSchema

variable {schema : Schema}

/-- Merging two valid documents gives a coherent document. What is found wrong with it is that lists
are too long, and a mismatch of structure lies where navigation does not get, as long as the indexes
on the way are machine words. -/
theorem WellLoaded.coherent_merge {strategy : ListStrategy} {base overlay : Document}
    (h : WellLoaded schema) (hkeyed : schema.root.KeyedByScalars) (hbase : base.WellFormed)
    (hoverlay : overlay.WellFormed) (hvalid : schema.validate base = [])
    (hvalid' : schema.validate overlay = []) :
    (∀ merged, schema.merge strategy base overlay = .ok merged →
      ∀ finding ∈ schema.validate merged, finding.IsLongList) ∧
    ∀ path shape shape', schema.merge strategy base overlay =
      .error (.structureMismatch path shape shape') →
      (∀ position, .index position ∈ path → position < wordCount) →
      ∃ error, schema.subschema (path.map Segment.step) = .error error := by
  have hroot : schema.root.WellFormed := h.root_wellFormed
  have happlicable : Applicable schema.rules 0 schema.root := h.loaded.applicable
  have hsound : schema.patterns.Sound := h.loaded.patterns_sound
  have hcoherent : Coherent schema.loader.formats schema.root none base :=
    ((happlicable.findings_eq_nil_iff hsound).1 hvalid).coherent hroot hbase
  have hcoherent' : Coherent schema.loader.formats schema.root none overlay :=
    ((happlicable.findings_eq_nil_iff hsound).1 hvalid').coherent hroot hoverlay
  constructor
  · intro merged hmerge finding hfinding
    have hmergeable := hcoherent.mergeable hkeyed hbase
    have hmergeable' := hcoherent'.mergeable hkeyed hoverlay
    have hmerged := hcoherent.merged? hmergeable hmergeable' hcoherent' (toOption_eq_some.2 hmerge)
    exact hmerged.isLongList_of_mem_findings hroot happlicable hsound hfinding
  · intro path shape shape' hmismatch hpath
    exact hcoherent.navigate_eq_error hkeyed hoverlay hcoherent' hmismatch hpath

/-- A list of at most one host by name, and anything else. -/
def rosterDocument : Document :=
  .object [("type", .string "dict"), ("allow_other_keys", .bool true), ("keys", .object [
    ("hosts", .object [("type", .string "list"), ("max_length", .int 1),
      ("primary_key", .string "name"), ("items", .object [("type", .string "dict"),
        ("keys", .object [("name", .object [("type", .string "str")])])])])])]

def rosterNode : Node :=
  .dict .empty (some [
    ("hosts", .list .empty (some (.dict .empty (some [
      ("name", .str .empty ⟨none, none, none, none, none, none⟩)]) none none))
      ⟨some "name", none, some 1⟩)]) none (some true)

def roster (names : List String) (note : Document) : Document :=
  .object [("hosts", .array (names.map fun name => .object [("name", .string name)])),
    ("note", note)]

theorem keyedByScalars_rosterNode : rosterNode.KeyedByScalars := by
  have hkey : ∀ {key name : String} {node inner : Node},
      [(key, node)].lookup name = some inner → inner = node := by
    intro key name node inner h
    have hmem := Entries.mem_of_lookup h
    exact (Prod.ext_iff.1 (List.mem_singleton.1 hmem)).2
  -- from the name upwards: its dict, the list of hosts, and the root
  refine .of_below (by simp [rosterNode]) fun step hosts hhosts => ?_
  cases step with
  | key =>
    cases hkey hhosts
    refine .of_below (fun _ _ _ _ hnode hprimary => ?_) fun step item hitem => ?_
    · cases hnode
      cases hprimary
      refine ⟨_, rfl, _, rfl, ?_⟩
      decide
    cases step with
    | items =>
      cases hitem
      refine .of_below (by simp) fun step name hname => ?_
      cases step with
      | key =>
        cases hkey hname
        refine .of_below (by simp) fun step inner hinner => ?_
        cases step <;> cases hinner
      | dynamicKeys | items => cases hname
    | key | dynamicKeys => cases hitem
  | dynamicKeys | items => cases hhosts

/-- Two rosters make one that is too long; notes of different shapes do not merge,
as no node governs them. -/
theorem WellLoaded.coherent_merge_rosters :
    ∃ schema, WellLoaded schema ∧ schema.root.KeyedByScalars ∧
    schema.merge .append (roster ["a"] .null) (roster ["b"] .null) = .ok (roster ["a", "b"] .null) ∧
    schema.validate (roster ["a", "b"] .null) ≠ [] ∧
    (∀ finding ∈ schema.validate (roster ["a", "b"] .null), finding.IsLongList) ∧
    schema.merge .append (roster ["a"] (.object [])) (roster ["b"] (.string "x")) =
      .error (.structureMismatch [.key "note"] .dict .str) ∧
    ∃ error, schema.subschema ["note"] = .error error := by
  have hwell : ∀ name note, note.WellFormed → (roster [name] note).WellFormed := by
    intro name note hnote
    simp [roster, Document.WellFormed, Document.WellFormedEntries,
      Document.WellFormedElements, hnote]
  have hdocument : rosterDocument.WellFormed := by
    simp [rosterDocument, Document.WellFormed, Document.WellFormedEntries]
  have hrun : (Loader.standard.load rosterDocument).toOption.any (fun schema =>
      [roster ["a"] .null, roster ["b"] .null, roster ["a"] (.object []),
          roster ["b"] (.string "x")].all
        (fun document => (schema.validate document).isEmpty) &&
      !(schema.validate (roster ["a", "b"] .null)).isEmpty) = true := by decide +kernel
  have hparts : (Loader.standard.load rosterDocument).toOption.map
      (fun schema => (schema.root, schema.loader.maxDepth)) = some (rosterNode, defaultMaxDepth) :=
    rfl
  obtain ⟨schema, hload, htest⟩ := exists_ok_of_any hrun
  obtain ⟨hvalid, hinvalid⟩ := Bool.and_eq_true_iff.1 htest
  rw [hload] at hparts
  obtain ⟨hroot, hdepth⟩ := Prod.mk.inj (Option.some.inj hparts)
  have hvalid : ∀ document ∈ [roster ["a"] .null, roster ["b"] .null, roster ["a"] (.object []),
      roster ["b"] (.string "x")], schema.validate document = [] := by simpa using hvalid
  have hmerge : ∀ base overlay, schema.merge .append base overlay =
      base.merge ⟨.append, defaultMaxDepth⟩ (some rosterNode) overlay := by
    intro base overlay
    rw [Schema.merge, Schema.mergeOptions, hroot, hdepth]
  have hloaded : WellLoaded schema := .of_standard hdocument hload
  have hkeyed : schema.root.KeyedByScalars := hroot ▸ keyedByScalars_rosterNode
  have hmerged : schema.merge .append (roster ["a"] .null) (roster ["b"] .null) =
      .ok (roster ["a", "b"] .null) :=
    (hmerge _ _).trans rfl
  have hmismatch : schema.merge .append (roster ["a"] (.object [])) (roster ["b"] (.string "x")) =
      .error (.structureMismatch [.key "note"] .dict .str) := (hmerge _ _).trans rfl
  have hlong := (hloaded.coherent_merge hkeyed (hwell "a" .null trivial) (hwell "b" .null trivial)
    (hvalid _ (by simp)) (hvalid _ (by simp))).1 _ hmerged
  have hfree := (hloaded.coherent_merge hkeyed (hwell "a" (.object []) ⟨.nil, trivial⟩)
    (hwell "b" (.string "x") trivial) (hvalid _ (by simp)) (hvalid _ (by simp))).2 _ _ _
      hmismatch (by simp)
  exact ⟨schema, hloaded, hkeyed, hmerged, by simpa using hinvalid, hlong, hmismatch, hfree⟩

end DataSchema
