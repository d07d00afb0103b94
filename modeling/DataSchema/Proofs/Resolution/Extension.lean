import DataSchema.Proofs.Node.Alike
import DataSchema.Proofs.Resolution.Room

/-!
# Merging before and after resolving

A fragment without references may be laid over a node before the node is resolved or after that, and
the results are alike. Laid over a reference first, the fragment becomes part of the local fields,
which go over the target later; so this is associativity of merging, once for every reference on the
way, and the room for resolving is the same on both ways.
-/

namespace DataSchema.Resolution

open Node

variable {around : Surroundings} {guarded : Bool} {room : Nat} {inProgress : List String}
  {order : ListOrder} {node other fragment merged expanded expanded' result result' : Node}

theorem Descends.sameFields {formats : Formats} {resolves : Node → Node → Prop}
    (h : Descends formats resolves node result) : SameFields result node where
  kind := h.kind
  reference := h.reference
  scalar := h.scalar?
  listed field := by rw [h.listed?]; exact .refl _
  keyNames := h.keyNames?

theorem Resolves.alike_of_noReferences (hnode : node.NoReferences)
    (h : Resolves around guarded room inProgress node result) : result.Alike node := by
  induction room generalizing node result with
  | zero => exact h.elim
  | succ room ih =>
    obtain ⟨expanded, hexpands, hdescends⟩ := h
    cases hexpands with
    | target hreference => simp [hnode.reference] at hreference
    | plain =>
      refine alike_iff.2 ⟨hdescends.sameFields, fun step => ?_⟩
      have hstep := hdescends.below? step
      cases hinner : node.below? step with
      | none =>
        rw [hinner] at hstep
        rw [eq_none_of_rel_none hstep]
        exact .none
      | some inner =>
        rw [hinner] at hstep
        obtain ⟨found, hfound, hresolves⟩ := exists_of_rel_some hstep
        rw [hfound]
        exact .some (ih (hnode.below? hinner) hresolves)

/-- Where a reference is expanded, the fragment goes over the local fields or
over what comes of them. -/
theorem Expands.exists_merged? (hnode : node.WellFormed)
    (hother : other.WellFormed) (hfragment : fragment.WellFormed)
    (hreference : fragment.attributes.reference = none)
    (hmerged : node.merged? order fragment = some merged) (halike : merged.Alike other)
    (h : Expands around.store guarded inProgress (Resolves around guarded room) node expanded)
    (h' : Expands around.store guarded inProgress (Resolves around guarded room) other expanded') :
    ∃ result, expanded.merged? order fragment = some result ∧ result.Alike expanded' := by
  have hsame : other.attributes.reference = node.attributes.reference := by
    rw [← halike.fields.reference, reference_of_merged? hmerged, hreference, Option.none_or]
  cases h with
  | plain hplain =>
    cases h' with
    | plain => exact ⟨merged, hmerged, halike⟩
    | target hreference' => simp [hsame, hplain] at hreference'
  | target hreference₁ _ hfragment₁ htarget₁ hexpanded₁ =>
    cases h' with
    | plain hplain => simp [← hsame, hplain] at hreference₁
    | target hreference₂ _ hfragment₂ htarget₂ hexpanded₂ =>
      cases (hsame.trans hreference₁).symm.trans hreference₂
      cases hfragment₁.symm.trans hfragment₂
      cases htarget₁.unique htarget₂
      have hwell : merged.WellFormed := hnode.merged? hfragment hmerged
      have hown : node.ownFields.merged? order fragment = some merged.ownFields :=
        merged?_ownFields hreference hmerged
      -- the local fields of the other node are those of this one with the fragment over them
      have hlocal : ∃ all, Node.merged? .overlayFirst _ merged.ownFields = some all ∧
          all.Alike expanded' :=
        exists_merged?_alike (.refl _) halike.symm.ownFields hother.ownFields
          hwell.ownFields hexpanded₂
      obtain ⟨all, hall, halike'⟩ := hlocal
      have hlater : ∃ result, expanded.merged? order fragment = some result ∧ result.Alike all :=
        exists_merged?_assoc hnode.ownFields hfragment hexpanded₁ hown hall
      obtain ⟨result, hresult, halike''⟩ := hlater
      exact ⟨result, hresult, halike''.trans halike'⟩

theorem exists_mergedOptional?_of_rel {resolves : Node → Node → Prop}
    {inner inner' outer outer' overlay merged : Option Node}
    (hinner : ∀ a ∈ inner, a.WellFormed) (houter : ∀ b ∈ outer, b.WellFormed)
    (hoverlay : ∀ g ∈ overlay, g.WellFormed ∧ g.NoReferences)
    (hnoReferences : ∀ b b' : Node, b.NoReferences → resolves b b' → b'.Alike b)
    (hmerge : ∀ a a' b b' g v : Node, a.WellFormed → b.WellFormed → g.WellFormed → g.NoReferences →
      a.merged? order g = some v → v.Alike b → resolves a a' → resolves b b' →
      ∃ z, a'.merged? order g = some z ∧ z.Alike b')
    (hmerged : mergedOptional? order inner overlay = some merged)
    (halike : Option.Rel Alike merged outer) (h : Option.Rel resolves inner inner')
    (h' : Option.Rel resolves outer outer') :
    ∃ result, mergedOptional? order inner' overlay = some result ∧
      Option.Rel Alike result outer' := by
  cases overlay with
  | none =>
    cases hmerged
    refine ⟨inner', rfl, ?_⟩
    cases inner with
    | none =>
      rw [eq_none_of_rel_none halike] at h'
      rw [eq_none_of_rel_none h, eq_none_of_rel_none h']
      exact .none
    | some a =>
      obtain ⟨b, rfl, hab⟩ := exists_of_rel_some halike
      obtain ⟨a', rfl, ha⟩ := exists_of_rel_some h
      obtain ⟨b', rfl, hb⟩ := exists_of_rel_some h'
      -- a fragment that has nothing here is as good as one that says nothing
      obtain ⟨z, hz, hzb⟩ :=
        hmerge a a' b b' (blank a.kind) a (hinner a rfl) (houter b rfl) (blank_wellFormed _)
          (blank_noReferences _) (merged?_blank a) hab ha hb
      have hkind : a'.kind = a.kind := (kind_of_merged? hz).trans (kind_blank _)
      rw [← hkind, merged?_blank] at hz
      cases hz
      exact .some hzb
  | some g =>
    obtain ⟨hwell, hreferences⟩ := hoverlay g rfl
    obtain ⟨v, hv, rfl⟩ := Option.map_eq_some_iff.1 hmerged
    obtain ⟨b, rfl, hvb⟩ := exists_of_rel_some halike
    obtain ⟨b', rfl, hb⟩ := exists_of_rel_some h'
    cases inner with
    | none =>
      cases hv
      rw [eq_none_of_rel_none h]
      exact ⟨some g, rfl, .some (hvb.trans (hnoReferences b b' (hreferences.alike hvb) hb).symm)⟩
    | some a =>
      obtain ⟨a', rfl, ha⟩ := exists_of_rel_some h
      obtain ⟨z, hz, hzb⟩ :=
        hmerge a a' b b' g v (hinner a rfl) (houter b rfl) hwell hreferences hv hvb ha hb
      exact ⟨some z, Option.map_eq_some_iff.2 ⟨z, hz, rfl⟩, .some hzb⟩

/-- A fragment without references that goes over a node goes over the resolved node
as well. The results are alike: what comes of the merged node, and the resolved node
with the fragment over it. -/
theorem Resolves.exists_merged? (hstore : around.store.WellFormed) (hnode : node.WellFormed)
    (hother : other.WellFormed) (hfragment : fragment.WellFormed)
    (hreferences : fragment.NoReferences) (hmerged : node.merged? order fragment = some merged)
    (halike : merged.Alike other) (h : Resolves around guarded room inProgress node result)
    (h' : Resolves around guarded room inProgress other result') :
    ∃ extended, result.merged? order fragment = some extended ∧ extended.Alike result' := by
  induction room generalizing inProgress node other fragment merged result result' with
  | zero => exact h.elim
  | succ room ih =>
    obtain ⟨expanded, hexpands, hdescends⟩ := h
    obtain ⟨expanded', hexpands', hdescends'⟩ := h'
    have hexpanded : expanded.WellFormed := hexpands.wellFormed hstore hnode
    have hexpanded' : expanded'.WellFormed := hexpands'.wellFormed hstore hother
    obtain ⟨both, hboth, hbothAlike⟩ := hexpands.exists_merged? hnode hother hfragment
      hreferences.reference hmerged halike hexpands'
    apply exists_merged?_alike_of_steps hfragment
    · rw [hdescends.kind]
      exact kind_of_merged? hboth
    · intro step
      apply exists_mergedOptional?_of_rel (fun a => hexpanded.below?)
        (fun b => hexpanded'.below?) _ _ _
        (below?_of_merged? hfragment hboth step) (hbothAlike.below? step) (hdescends.below? step)
        (hdescends'.below? step)
      · intro g hg
        exact ⟨hfragment.below? hg, hreferences.below? hg⟩
      · intro b b' hb hresolves
        exact hresolves.alike_of_noReferences hb
      · intro a a' b b' g v ha hb hg hg' hv hvb hresolves hresolves'
        exact ih ha hb hg hg' hv hvb hresolves hresolves'
    · intro extended hextended
      have hfields :=
        hdescends.sameFields.merge (.refl fragment) hfragment hfragment hextended hboth
      exact (hfields.trans hbothAlike.fields).trans hdescends'.sameFields.symm

end DataSchema.Resolution
