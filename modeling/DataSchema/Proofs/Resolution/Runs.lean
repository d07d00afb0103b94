import DataSchema.Proofs.Node.Steps
import DataSchema.Proofs.Resolution.Outcome

/-!
# Two runs side by side

Resolution is put together from a few parts that treat the resolution of what is below as a black
box. A relation between runs that sequences keep is kept by all of these parts, whatever it says
about the two runs, so only the places where the runs differ have to be looked at.
-/

namespace DataSchema.Resolution

/-- The relation holds of two runs that are the same, and sequences keep it. -/
structure Compatible (related : (α : Type) → Resolving α → Resolving α → Prop) : Prop where
  refl : ∀ {α : Type} (run : Resolving α), related α run run
  bind : ∀ {α β : Type} {run run' : Resolving α} {next next' : α → Resolving β},
    related α run run' →
    (∀ a, related β (next a) (next' a)) → related β (run >>= next) (run' >>= next')

theorem run_bind {α β : Type} (run : Resolving α) (next : α → Resolving β) (before : Patterns) :
    (run >>= next) before = (run before >>= fun outcome => next outcome.1 outcome.2) := rfl

variable {related : (α : Type) → Resolving α → Resolving α → Prop}

namespace Compatible

theorem optional {α : Type} {run run' : α → Resolving α} (hrelated : Compatible related)
    (h : ∀ value, related α (run value) (run' value)) (value : Option α) :
    related (Option α) (optional run value) (optional run' value) := by
  cases value with
  | none => exact hrelated.refl _
  | some inner => exact hrelated.bind (h inner) fun resolved => hrelated.refl _

variable {run run' : Path → Node → Resolving Node}

theorem eachKey (hrelated : Compatible related)
    (h : ∀ path node, related Node (run path node) (run' path node)) (path : Path)
    (keys : List (String × Node)) :
    related (List (String × Node)) (eachKey run path keys) (eachKey run' path keys) := by
  induction keys with
  | nil => exact hrelated.refl _
  | cons declared rest ih =>
    exact hrelated.bind (h _ _) fun resolved => hrelated.bind ih fun others => hrelated.refl _

theorem descend (hrelated : Compatible related)
    (h : ∀ path node, related Node (run path node) (run' path node)) (formats : Formats)
    (path : Path) (node : Node) :
    related Node (descend formats run path node) (descend formats run' path node) := by
  cases node with
  | dict a keys dynamicKeys other =>
    apply hrelated.bind (hrelated.optional (hrelated.eachKey h _) keys)
    intro keys
    exact hrelated.bind (hrelated.optional (h _) dynamicKeys) fun dynamicKeys => hrelated.refl _
  | list a items c =>
    exact hrelated.bind (hrelated.optional (h _) items) fun items => hrelated.refl _
  | str | int | bool => exact hrelated.refl _

theorem expand {around around' : Surroundings} {guarded : Bool} {inProgress : List String}
    {run run' : List String → Node → Resolving Node} (hrelated : Compatible related)
    (hfragment : ∀ reference, related Node (lift (around.store.fragment reference))
      (lift (around'.store.fragment reference)))
    (h : ∀ inProgress node, related Node (run inProgress node) (run' inProgress node)) (path : Path)
    (node : Node) :
    related Node (expand around guarded inProgress run path node)
      (expand around' guarded inProgress run' path node) := by
  unfold Resolution.expand
  split
  · exact hrelated.refl _
  · rename_i reference _
    have hrest := hrelated.bind (hfragment reference) fun fragment =>
      hrelated.bind (h (inProgress ++ [reference]) fragment) fun target =>
        hrelated.refl (lift (overlay reference path target node.ownFields))
    split
    · exact hrelated.bind (hrelated.refl _) fun _ => hrest
    · exact hrest

end Compatible

/-- The second run does what the first does, unless that one stops with one of the given errors. -/
def AgreesUnless (stops : SchemaError → Prop) (α : Type) (run run' : Resolving α) : Prop :=
  ∀ before, (∀ error, run before = .error error → ¬ stops error) → run' before = run before

theorem compatible_agreesUnless (stops : SchemaError → Prop) : Compatible (AgreesUnless stops) where
  refl run := fun before _ => rfl
  bind := by
    intro α β run run' next next' h hnext before hgoesOn
    rw [run_bind] at hgoesOn ⊢
    have hfirst : ∀ error, run before = .error error → ¬ stops error := by
      intro error herror
      exact hgoesOn error (by rw [herror]; rfl)
    rw [run_bind, h before hfirst]
    cases hrun : run before with
    | error => rfl
    | ok outcome =>
      rw [hrun] at hgoesOn
      exact hnext outcome.1 outcome.2 hgoesOn

end DataSchema.Resolution
