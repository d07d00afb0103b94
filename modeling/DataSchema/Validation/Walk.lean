import DataSchema.Validation.Basic

/-!
# Findings one at a time

A walk holds what validation has left to do, in document order: values to look into, and findings
that are known already but have to wait for what stands before them. The next finding comes from
expanding values at the front until a finding stands there. An instance is looked into only as far
as findings are asked for, so whether it is valid is known with the first one.
-/

namespace DataSchema

open Validation

/-- The finding as seen from the root, when it was seen from the end of the path. -/
def Finding.under (path : Path) (finding : Finding) : Finding :=
  { finding with path := path ++ finding.path }

/-- A value to look into: its node, its place, how deeply it is nested, and the key that has to be
set in it besides the required ones. -/
structure Visit where
  node : Node
  value : Document
  path : Path
  depth : Nat
  required : Option String

inductive Work where
  | look (visit : Visit)
  | emit (finding : Finding)

/-- What is left to do, the next piece first. -/
abbrev Walk := List Work

/-! ### The work of one value -/

namespace Visit

/-- The visit of a value one step below. -/
def below (visit : Visit) (segment : Segment) (node : Node) (value : Document)
    (required : Option String) : Visit :=
  ⟨node, value, visit.path.join segment, visit.depth + 1, required⟩

/-- Findings of the value, to be given with its place. -/
def emit (visit : Visit) (findings : List Finding) : Walk :=
  findings.map fun finding => .emit (finding.under visit.path)

def staticKey (visit : Visit) (entries : Entries Document) (declared : String × Node) : Walk :=
  match (entries.lookup declared.1).filter fun value => !value.isNull with
  | some value => [.look (visit.below (.key declared.1) declared.2 value none)]
  | none =>
    if declared.2.isRequired || visit.required == some declared.1 then
      visit.emit [⟨[.key declared.1], .missingKey declared.1⟩]
    else []

/-- The work of an entry that may be left to the schema of all other keys. -/
def otherKey (visit : Visit) (declared : List String) (dynamicKeys : Option Node)
    (allowOtherKeys : Bool) (entry : String × Document) : Walk :=
  if declared.contains entry.1 then []
  else match dynamicKeys with
    | some node => [.look (visit.below (.key entry.1) node entry.2 none)]
    | none => visit.emit (unknownKey declared allowOtherKeys entry.1 entry.2)

/-- The work of an element itself, before its primary key is compared. -/
def element (visit : Visit) (primaryKey : Option String) (items : Option Node) (index : Nat)
    (value : Document) : Walk :=
  match items with
  | some item =>
    if value.isNull then visit.emit [⟨[.index index], .wrongKind item.kind value⟩]
    else [.look (visit.below (.index index) item value primaryKey)]
  | none => []

/-- The work of the elements from `index` on. -/
def elements (visit : Visit) (primaryKey : Option String) (items : Option Node) :
    Nat → Seen → List Document → Walk
  | _, _, [] => []
  | index, seen, value :: rest =>
    visit.element primaryKey items index value ++
      visit.emit (repetition primaryKey seen index value)
      ++ visit.elements primaryKey items (index + 1) (remember primaryKey seen index value) rest

/-- The findings of a value and the visits below it, in document order. -/
def expand (rules : Rules) (visit : Visit) : Walk :=
  if visit.value.isNull then []
  else if visit.depth > rules.maxDepth then visit.emit [here (.tooDeep rules.maxDepth)]
  else match visit.node, visit.value with
    | .str _ c, .string text => visit.emit ((c.problems rules text).map here)
    | .int _ c, .int i => visit.emit ((c.problems i).map here)
    | .bool _ c, .bool b => visit.emit ((c.problems b).map here)
    | .dict _ keys dynamicKeys allowOtherKeys, .object entries =>
      (keys.getD []).flatMap (visit.staticKey entries)
        ++ entries.flatMap (visit.otherKey ((keys.getD []).map Prod.fst) dynamicKeys
          (allowOtherKeys.getD false))
    | .list _ items c, .array values =>
      visit.emit ((c.problems values.length).map here) ++
        visit.elements c.primaryKey items 0 [] values
    | node, value => visit.emit [here (.wrongKind node.kind value)]

end Visit

/-! ### How much is left to do

A visit weighs as much as its node times its value. What it expands to is lighter: every value below
is visited with a node below, and no two of these visits share both. -/

noncomputable def Visit.size (visit : Visit) : Nat := sizeOf visit.node * sizeOf visit.value

noncomputable def Work.size : Work → Nat
  | .look visit => visit.size
  | .emit _ => 0

namespace Walk

noncomputable def size : Walk → Nat
  | [] => 0
  | work :: rest => work.size + size rest

@[simp] theorem size_nil : size [] = 0 := rfl

@[simp] theorem size_cons (work : Work) (walk : Walk) :
    size (work :: walk) = work.size + size walk := rfl

@[simp] theorem size_append (walk walk' : Walk) :
    size (walk ++ walk') = size walk + size walk' := by
  induction walk with
  | nil => exact (Nat.zero_add _).symm
  | cons work rest ih => rw [List.cons_append, size_cons, size_cons, ih, Nat.add_assoc]

@[simp] theorem size_emit (visit : Visit) (findings : List Finding) :
    size (visit.emit findings) = 0 := by
  induction findings with
  | nil => rfl
  | cons _ _ ih => simpa [Visit.emit, Work.size] using ih

theorem size_below (visit : Visit) (segment : Segment) (node : Node) (value : Document)
    (required : Option String) :
    size [.look (visit.below segment node value required)] = sizeOf node * sizeOf value := rfl

theorem size_flatMap_le {α : Type} [SizeOf α] (work : α → Walk) (weight : Nat) (list : List α)
    (h : ∀ a ∈ list, size (work a) ≤ sizeOf a * weight) :
    size (list.flatMap work) ≤ sizeOf list * weight := by
  induction list with
  | nil => simp
  | cons a rest ih =>
    rw [List.forall_mem_cons] at h
    rw [List.flatMap_cons, size_append, List.cons.sizeOf_spec, Nat.add_mul, Nat.add_mul]
    exact Nat.add_le_add (Nat.le_trans h.1 (Nat.le_add_left _ _)) (ih h.2)

end Walk

namespace Visit

variable (visit : Visit)

theorem size_staticKeys_le (entries : Entries Document) (keys : List (String × Node)) :
    Walk.size (keys.flatMap (visit.staticKey entries)) ≤ sizeOf keys * sizeOf entries := by
  refine Walk.size_flatMap_le _ _ _ fun declared _ => ?_
  unfold staticKey
  split
  · rename_i value hset
    obtain ⟨before, after, hentries, -⟩ :=
      List.lookup_eq_some_iff.1 (Option.filter_eq_some_iff.1 hset).1
    have hmem : sizeOf (declared.1, value) < sizeOf entries :=
      List.sizeOf_lt_of_mem (by simp [hentries])
    rw [Prod.mk.sizeOf_spec] at hmem
    rw [Walk.size_below]
    cases declared
    refine Nat.mul_le_mul ?_ (by omega)
    simp only [Prod.mk.sizeOf_spec]
    omega
  · split <;> simp

theorem size_otherKeys_le (declared : List String) (dynamicKeys : Option Node)
    (allowOtherKeys : Bool) (entries : Entries Document) :
    Walk.size (entries.flatMap (visit.otherKey declared dynamicKeys allowOtherKeys)) ≤
      sizeOf entries * sizeOf dynamicKeys := by
  refine Walk.size_flatMap_le _ _ _ fun entry _ => ?_
  unfold otherKey
  split
  · simp
  · cases dynamicKeys with
    | none => simp
    | some node =>
      rw [Walk.size_below, Nat.mul_comm]
      cases entry
      refine Nat.mul_le_mul ?_ (by simp)
      simp only [Prod.mk.sizeOf_spec]
      omega

theorem size_elements_le (primaryKey : Option String) (items : Option Node) (index : Nat)
    (seen : Seen) (values : List Document) :
    Walk.size (visit.elements primaryKey items index seen values) ≤
      sizeOf values * sizeOf items := by
  induction values generalizing index seen with
  | nil => simp [elements]
  | cons value rest ih =>
    have hvalue : Walk.size (visit.element primaryKey items index value) ≤
        sizeOf value * sizeOf items := by
      cases items with
      | none => simp [element]
      | some item =>
        rw [element]
        split
        · simp
        · rw [Walk.size_below, Nat.mul_comm]
          exact Nat.mul_le_mul_left _ (by simp)
    rw [elements, Walk.size_append, Walk.size_append, Walk.size_emit, Nat.add_zero,
      List.cons.sizeOf_spec, Nat.add_mul, Nat.add_mul]
    exact Nat.add_le_add (Nat.le_trans hvalue (Nat.le_add_left _ _)) (ih _ _)

theorem size_expand_lt (rules : Rules) : Walk.size (visit.expand rules) < visit.size := by
  have hpos : 0 < visit.size := by
    apply Nat.mul_pos
    · exact Nat.pos_of_ne_zero (by cases visit.node <;> simp)
    · exact Nat.pos_of_ne_zero (by cases visit.value <;> simp)
  unfold expand
  split
  · exact hpos
  · split
    · rwa [Walk.size_emit]
    · split
      · rwa [Walk.size_emit]
      · rwa [Walk.size_emit]
      · rwa [Walk.size_emit]
      · rename_i keys dynamicKeys other entries hnode hvalue
        have hstatic := visit.size_staticKeys_le entries (keys.getD [])
        have hother := visit.size_otherKeys_le ((keys.getD []).map Prod.fst) dynamicKeys
          (other.getD false) entries
        have hkeys : sizeOf (keys.getD []) ≤ sizeOf keys := by cases keys <;> simp
        rw [Walk.size_append, size, hnode, hvalue, Node.dict.sizeOf_spec,
          Document.object.sizeOf_spec]
        calc _
          _ ≤ sizeOf keys * sizeOf entries + sizeOf dynamicKeys * sizeOf entries := by
            rw [Nat.mul_comm (sizeOf dynamicKeys)]
            exact Nat.add_le_add (Nat.le_trans hstatic (Nat.mul_le_mul_right _ hkeys)) hother
          _ = (sizeOf keys + sizeOf dynamicKeys) * sizeOf entries := (Nat.add_mul _ _ _).symm
          _ < _ := Nat.mul_lt_mul_of_lt_of_le (by omega) (by omega) (by omega)
      · rename_i items c values hnode hvalue
        have helements := visit.size_elements_le c.primaryKey items 0 [] values
        rw [Walk.size_append, Walk.size_emit, Nat.zero_add, size, hnode, hvalue,
          Node.list.sizeOf_spec, Document.array.sizeOf_spec]
        calc _
          _ ≤ sizeOf items * sizeOf values := by rwa [Nat.mul_comm]
          _ < _ := Nat.mul_lt_mul_of_lt_of_le (by omega) (by omega) (by omega)
      · rwa [Walk.size_emit]

end Visit

/-! ### Asking for findings -/

namespace Walk

/-- The walk before anything was looked into. -/
def start (node : Node) (value : Document) : Walk := [.look ⟨node, value, [], 0, none⟩]

/-- The next finding, and what is left to do after it. -/
def next? (rules : Rules) : Walk → Option (Finding × Walk)
  | [] => none
  | .emit finding :: rest => some (finding, rest)
  | .look visit :: rest => next? rules (visit.expand rules ++ rest)
termination_by walk => walk.size
decreasing_by
  rw [size_append, size_cons]
  exact Nat.add_lt_add_right (visit.size_expand_lt rules) _

/-- Asking for a finding leaves less to do. -/
theorem size_of_next? {rules : Rules} {walk rest : Walk} {finding : Finding}
    (h : walk.next? rules = some (finding, rest)) :
    rest.size < walk.size ∨ rest.size = walk.size ∧ rest.length < walk.length := by
  induction walk using next?.induct rules with
  | case1 => simp [next?] at h
  | case2 finding rest =>
    rw [next?] at h
    cases h
    exact .inr (by simp [Work.size])
  | case3 visit rest' ih =>
    rw [next?] at h
    have hlt := visit.size_expand_lt rules
    have hle := ih h
    rw [size_append] at hle
    rw [size_cons, Work.size]
    omega

/-- All findings that are left. -/
def toList (rules : Rules) (walk : Walk) : List Finding :=
  match _h : walk.next? rules with
  | none => []
  | some (finding, rest) => finding :: toList rules rest
termination_by (walk.size, walk.length)
decreasing_by
  rcases size_of_next? _h with hlt | ⟨heq, hlt⟩
  · exact .left _ _ hlt
  · rw [heq]
    exact .right _ hlt

end Walk

end DataSchema
