import DataSchema.Proofs.MetaSchema.Legal
import DataSchema.Proofs.Store.Fragments

/-!
# Filled stores

A store that is filled through `insert` alone holds legal documents, each with respect to the limit
that the store had at the time. A fragment that is read from one of their nodes is legal as well.
The default of a dict is the one place with an object that is no node and was not checked as one; a
path may lead there, and on into it, and what it finds may well be read as a node.
-/

namespace DataSchema

namespace Store

variable {document found : Document} {node : Node} {steps : List String}

/-- The stores that come from inserting documents, under one limit or several. -/
inductive Filled : Store → Prop
  | empty : Filled .empty
  | withMaxDepth {store : Store} (h : Filled store) (maxDepth : Nat) :
      Filled (store.withMaxDepth maxDepth)
  | insert {store extended : Store} {name : String} {document : Document} (h : Filled store)
      (hinsert : store.insert name document = .ok extended) : Filled extended

theorem Filled.exists_legal {store : Store} (h : store.Filled) :
    ∀ entry ∈ store.documents, ∃ limit, MetaSchema.Legal limit 0 entry.2 := by
  induction h with
  | empty => simp [Store.empty]
  | withMaxDepth _ _ ih => exact ih
  | @insert store extended name document _ hinsert ih =>
    obtain ⟨_, hensure, hextended⟩ := bind_eq_ok.1 hinsert
    cases hextended
    intro entry hentry
    rcases Entries.mem_insert hentry with rfl | hentry
    · exact ⟨store.maxDepth, MetaSchema.ensure_eq_ok_iff.1 hensure⟩
    · exact ih entry hentry

/-- Whether a path that starts at a node leads to the default of a node or into it. -/
def entersDefault : List String → Bool
  | "default" :: _ => true
  | "keys" :: _ :: rest => entersDefault rest
  | "dynamic_keys" :: rest => entersDefault rest
  | "items" :: rest => entersDefault rest
  | _ => false

theorem exists_of_follow_cons {step : String} (h : follow document (step :: steps) = .ok found) :
    ∃ entries next, document = .object entries ∧ entries.lookup step = some next ∧
      follow next steps = .ok found := by
  rw [follow] at h
  split at h
  · rename_i next hnext
    cases document with
    | object entries => exact ⟨entries, next, rfl, hnext, h⟩
    | _ => cases hnext
  · cases h

theorem exists_object_of_follow (h : follow document steps = .ok found)
    (hread : Node.ofDocument? found = some node) :
    ∃ entries, document = .object entries := by
  cases steps with
  | nil =>
    cases h
    cases document with
    | object entries => exact ⟨entries, rfl⟩
    | _ => cases hread
  | cons step rest =>
    obtain ⟨entries, -, hobject, -⟩ := exists_of_follow_cons h
    exact ⟨entries, hobject⟩

/-- What is read as a node is legal, as long as the path stays with the nodes. -/
theorem follow_legal {limit depth : Nat} (h : MetaSchema.Legal limit depth document)
    (hsteps : entersDefault steps = false) (hfollow : follow document steps = .ok found)
    (hread : Node.ofDocument? found = some node) :
    ∃ depth, MetaSchema.Legal limit depth found := by
  induction steps using entersDefault.induct generalizing document depth with
  | case1 rest => cases hsteps
  | case2 name rest ih =>
    obtain ⟨entries, next, rfl, hkeys, hfollow⟩ := exists_of_follow_cons hfollow
    obtain ⟨values, next', rfl, hname, hfollow⟩ := exists_of_follow_cons hfollow
    obtain ⟨inner, rfl⟩ := exists_object_of_follow hfollow hread
    exact ih (h.of_lookup_keys hkeys hname) hsteps hfollow
  | case3 rest ih =>
    obtain ⟨entries, next, rfl, hdynamic, hfollow⟩ := exists_of_follow_cons hfollow
    obtain ⟨inner, rfl⟩ := exists_object_of_follow hfollow hread
    exact ih (h.of_lookup (.inl rfl) hdynamic) hsteps hfollow
  | case4 rest ih =>
    obtain ⟨entries, next, rfl, hitems, hfollow⟩ := exists_of_follow_cons hfollow
    obtain ⟨inner, rfl⟩ := exists_object_of_follow hfollow hread
    exact ih (h.of_lookup (.inr rfl) hitems) hsteps hfollow
  | case5 steps hdefault hkeys hdynamic hitems =>
    cases steps with
    | nil =>
      cases hfollow
      exact ⟨depth, h⟩
    | cons step rest =>
      obtain ⟨entries, next, rfl, hlookup, hrest⟩ := exists_of_follow_cons hfollow
      by_cases hstep : step = "keys"
      · subst hstep
        cases rest with
        | nil =>
          cases hrest
          rw [h.unread_keys hlookup] at hread
          cases hread
        | cons name rest => exact (hkeys name rest rfl).elim
      · obtain ⟨inner, rfl⟩ := exists_object_of_follow hrest hread
        have hother : step ∉ ["default", "keys", "dynamic_keys", "items"] := by
          simp only [List.mem_cons, List.not_mem_nil, or_false, not_or]
          refine ⟨fun heq => hdefault rest ?_, hstep, fun heq => hdynamic rest ?_, fun heq =>
            hitems rest ?_⟩ <;> rw [heq]
        exact absurd rfl (h.ne_object_of_lookup hlookup hother inner)

end Store

end DataSchema
