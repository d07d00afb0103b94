import DataSchema.Node.Basic

/-!
# Induction over documents and nodes

Documents and schema nodes hold lists and options of themselves. The principles here give the
induction hypothesis for every element, entry or node below, so proofs need no companion statement
about lists. The last part takes computations apart that may fail.
-/

namespace DataSchema

@[elab_as_elim, induction_eliminator]
theorem Document.inductionOn {motive : Document → Prop} (null : motive .null)
    (bool : ∀ value, motive (.bool value)) (int : ∀ value, motive (.int value))
    (float : ∀ value, motive (.float value)) (string : ∀ text, motive (.string text))
    (array : ∀ elements, (∀ element ∈ elements, motive element) → motive (.array elements))
    (object : ∀ entries, (∀ entry ∈ entries, motive entry.2) → motive (.object entries))
    (document : Document) :
    motive document :=
  @Document.rec motive (fun elements => ∀ element ∈ elements, motive element) (fun entries =>
      ∀ entry ∈ entries, motive entry.2)
    (fun entry => motive entry.2) null bool int float string array object
    (by simp) (fun _ _ head tail => List.forall_mem_cons.2 ⟨head, tail⟩)
    (by simp) (fun _ _ head tail => List.forall_mem_cons.2 ⟨head, tail⟩)
    (fun _ _ value => value) document

@[elab_as_elim, induction_eliminator]
theorem Node.inductionOn {motive : Node → Prop} (str : ∀ a c, motive (.str a c))
    (int : ∀ a c, motive (.int a c)) (bool : ∀ a c, motive (.bool a c))
    (dict : ∀ a keys dynamicKeys other, (∀ entry ∈ keys.getD [], motive entry.2) →
      (∀ node ∈ dynamicKeys, motive node) →
      motive (.dict a keys dynamicKeys other))
    (list : ∀ a items c, (∀ item ∈ items, motive item) → motive (.list a items c)) (node : Node) :
    motive node :=
  @Node.rec motive (fun keys => ∀ entry ∈ keys.getD [], motive entry.2) (fun node? =>
      ∀ node ∈ node?, motive node)
    (fun keys => ∀ entry ∈ keys, motive entry.2) (fun entry => motive entry.2)
    str int bool (fun a keys dynamicKeys other => dict a keys dynamicKeys other) (fun a items c =>
      list a items c)
    (by simp) (fun _ keys => keys) (by simp) (fun _ node => by simpa using node)
    (by simp) (fun _ _ head tail => List.forall_mem_cons.2 ⟨head, tail⟩)
    (fun _ _ value => value) node

theorem bind_eq_ok {ε α β : Type} {x : Except ε α} {f : α → Except ε β} {b : β} :
    (x >>= f) = .ok b ↔ ∃ a, x = .ok a ∧ f a = .ok b := by
  cases x <;> simp [bind, Except.bind]

/-- A computation whose result can be tested gives a result that passes the test. -/
theorem exists_ok_of_any {ε α : Type} {x : Except ε α} {test : α → Bool}
    (h : x.toOption.any test = true) :
    ∃ a, x = .ok a ∧ test a = true := by
  cases x with
  | error => simp [Except.toOption] at h
  | ok a => exact ⟨a, rfl, by simpa [Except.toOption] using h⟩

theorem mapError_eq_ok {ε ε' α : Type} {x : Except ε α} {f : ε → ε'} {a : α} :
    x.mapError f = .ok a ↔ x = .ok a := by
  rw [Except.mapError.eq_def]
  cases x with
  | error => simp
  | ok b => simp

theorem bind_eq_error {ε α β : Type} {x : Except ε α} {f : α → Except ε β} {e : ε}
    (h : (x >>= f) = .error e) :
    x = .error e ∨ ∃ a, x = .ok a ∧ f a = .error e := by
  cases x with
  | error =>
    cases h
    exact .inl rfl
  | ok a => exact .inr ⟨a, rfl, h⟩

theorem mapError_eq_error {ε ε' α : Type} {x : Except ε α} {f : ε → ε'} {e : ε'}
    (h : x.mapError f = .error e) :
    ∃ inner, x = .error inner ∧ e = f inner := by
  cases x with
  | error inner =>
    cases h
    exact ⟨inner, rfl, rfl⟩
  | ok => cases h

/-! ### Computations whose errors are not told apart -/

theorem toOption_bind {ε α β : Type} (x : Except ε α) (f : α → Except ε β) :
    (x >>= f).toOption = x.toOption.bind fun a => (f a).toOption := by
  cases x <;> rfl

theorem toOption_mapError {ε ε' α : Type} (x : Except ε α) (f : ε → ε') :
    (x.mapError f).toOption = x.toOption := by
  cases x <;> rfl

theorem toOption_eq_some {ε α : Type} {x : Except ε α} {a : α} :
    x.toOption = some a ↔ x = .ok a := by
  cases x <;> simp [Except.toOption]

theorem ok_or_error_of_toOption_eq {ε α : Type} {x y : Except ε α} (h : x.toOption = y.toOption) :
    (∃ a, x = .ok a ∧ y = .ok a) ∨ ∃ e e', x = .error e ∧ y = .error e' := by
  cases x with
  | error e =>
    cases y with
    | error e' => exact .inr ⟨e, e', rfl, rfl⟩
    | ok => cases h
  | ok a => exact .inl ⟨a, rfl, toOption_eq_some.1 h.symm⟩

/-! ### Optional values that are related -/

theorem exists_of_rel_some {α β : Type} {r : α → β → Prop} {a : α} {value : Option β}
    (h : Option.Rel r (some a) value) :
    ∃ b, value = some b ∧ r a b := by
  cases h with
  | some h => exact ⟨_, rfl, h⟩

theorem eq_none_of_rel_none {α β : Type} {r : α → β → Prop} {value : Option β}
    (h : Option.Rel r none value) :
    value = none := by
  cases h
  rfl

end DataSchema
