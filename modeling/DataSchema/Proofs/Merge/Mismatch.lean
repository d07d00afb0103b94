import DataSchema.Proofs.Merge.Coherence
import DataSchema.Proofs.Merge.Failures
import DataSchema.Proofs.Text.Numeral
import DataSchema.Schema

/-!
# Where documents of a schema do not fit together

Two values that the same node governs have the shape of its kind, so they always merge. When two
coherent documents do not fit together, the place is one that no node governs, and navigation does
not get there.
-/

namespace DataSchema

open Merge Document Validation

/-- A segment of a path as a step of navigation: indexes are written in decimal. -/
def Segment.step : Segment → String
  | .key name => name
  | .index position => toString position

/-! ### Indexes in decimal -/

theorem unsigned?_toString (n : Nat) : Text.unsigned? (toString n).toList = some n := by
  have hdigits : (toString n).toList = Nat.toDigits 10 n := Nat.toList_repr
  exact Text.unsigned?_eq_some_iff.2 ⟨_, .inl hdigits, Text.isDigits_toDigits n,
    Text.naturalValue_toDigits n⟩

theorem isIndex_step {position : Nat} (h : position < wordCount) :
    Schema.isIndex (Segment.index position).step = true := by
  rw [Schema.isIndex, Segment.step, unsigned?_toString, Option.any_some, decide_eq_true h]

/-! ### No node governs the place -/

theorem eq_mismatch_of_below {inner : MergeError} {segment : Segment} {path : Path}
    {shape shape' : Shape} (h : .structureMismatch path shape shape' = inner.below segment) :
    ∃ rest, path = segment :: rest ∧ inner = .structureMismatch rest shape shape' := by
  cases inner with
  | structureMismatch rest =>
    cases h
    exact ⟨rest, rfl, rfl⟩
  | depthExceeded => cases h

variable {formats : Formats} {options : MergeOptions} {node : Node} {required : Option String}

theorem Coherent.form_eq {base overlay : Document} (h : Coherent formats node required base)
    (h' : Coherent formats node required overlay) (hbase : base ≠ .null)
    (hoverlay : overlay ≠ .null) :
    base.form = overlay.form := by
  have hadmits := h.admits hbase
  have hadmits' := h'.admits hoverlay
  cases hkind : node.kind <;> cases base <;> cases overlay <;> simp_all [Kind.admits, form]

/-- Where two coherent documents do not fit together, the mismatch is one step below, and if a node
governs it there, of two values that are coherent with that node. -/
theorem Coherent.exists_mismatch_below {depth : Nat} {base overlay : Document} {path : Path}
    {shape shape' : Shape} (hkeyed : node.KeyedByScalars) (hoverlay : overlay.WellFormed)
    (h : Coherent formats node required base) (h' : Coherent formats node required overlay)
    (hmismatch : mergeAt options depth (some node) base overlay =
      .error (.structureMismatch path shape shape'))
    (hpath : ∀ position, .index position ∈ path → position < wordCount) :
    ∃ segment rest, path = segment :: rest ∧ ∀ child,
      Schema.stepBelow? node segment.step = some child →
      ∃ required x y, child.KeyedByScalars ∧ y.WellFormed ∧ Coherent formats child required x ∧
        Coherent formats child required y ∧
        mergeAt options (depth + 1) (some child) x y =
          .error (.structureMismatch rest shape shape') := by
  rcases mergeAt_eq_error hmismatch with
    ⟨-, hdeep⟩ | ⟨hbase, hnull, hform, -⟩ | ⟨entries, entries', rfl, rfl, hentries⟩
      | ⟨elements, elements', key, rfl, rfl, hkey, hlist⟩
  · cases hdeep
  · exact absurd (h.form_eq h' hbase hnull) hform
  · obtain ⟨hnodup, hvalues⟩ := Document.wellFormed_object.1 hoverlay
    obtain ⟨key, x, y, inner, hx, hy, hinner, hbelow⟩ := mergeEntries_eq_error hnodup hentries
    obtain ⟨rest, rfl, rfl⟩ := eq_mismatch_of_below hbelow
    refine ⟨.key key, rest, rfl, fun child hstep => ?_⟩
    cases h with
    | @dict a keys dynamicKeys other _ _ hgoverned =>
      cases h' with
      | dict hgoverned' =>
        have hchild : (Node.dict a keys dynamicKeys other).child? key = some child := hstep
        rw [Option.bind_some, hchild] at hinner
        exact ⟨none, x, y, hkeyed.child? hchild, hvalues _ hy,
          hgoverned _ (Entries.mem_of_lookup hx) child hchild, hgoverned' _ hy child hchild, hinner⟩
  · cases h with
    | @list a items _ _ c _ _ heach =>
      cases h' with
      | list _ _ heach' hdistinct' =>
        have hprimary : c.primaryKey = some key := hkey
        rw [hprimary] at hdistinct'
        obtain ⟨identity, place, x, y, inner, hx, hy, -, hinner, hbelow⟩ :=
          mergeKeyed_eq_error hdistinct' hlist
        obtain ⟨rest, rfl, rfl⟩ := eq_mismatch_of_below hbelow
        refine ⟨.index place, rest, rfl, fun item hstep => ?_⟩
        -- the step is taken as an index, never as a key of the elements
        have hindex := isIndex_step (hpath place List.mem_cons_self)
        rw [Schema.stepBelow?, if_pos hindex] at hstep
        cases hstep
        have hmem : x ∈ elements := mem_of_mem_slots (mem_of_find? hx)
        exact ⟨c.primaryKey, x, y, hkeyed.items? rfl, Document.wellFormed_array.1 hoverlay y hy,
          heach item rfl x hmem, heach' item rfl y hy, hinner⟩

theorem Coherent.navigate_eq_error {depth : Nat} {base overlay : Document}
    {path : Path} {shape shape' : Shape} {taken : List String}
    (hkeyed : node.KeyedByScalars) (hoverlay : overlay.WellFormed)
    (h : Coherent formats node required base) (h' : Coherent formats node required overlay)
    (hmismatch : mergeAt options depth (some node) base overlay =
      .error (.structureMismatch path shape shape'))
    (hpath : ∀ position, .index position ∈ path → position < wordCount) :
    ∃ error, Schema.navigate node taken (path.map Segment.step) = .error error := by
  induction path generalizing node required base overlay depth taken with
  | nil =>
    obtain ⟨_, _, hnil, -⟩ := h.exists_mismatch_below hkeyed hoverlay h' hmismatch hpath
    cases hnil
  | cons segment rest ih =>
    obtain ⟨_, _, ⟨⟩, hbelow⟩ := h.exists_mismatch_below hkeyed hoverlay h' hmismatch hpath
    rw [List.map_cons, Schema.navigate]
    cases hstep : Schema.stepBelow? node segment.step with
    | none => exact ⟨_, rfl⟩
    | some child =>
      obtain ⟨required, x, y, hchild, hy, hx', hy', hrest⟩ := hbelow child hstep
      exact ih hchild hy hx' hy' hrest fun position hmem =>
        hpath position (List.mem_cons_of_mem _ hmem)

end DataSchema
