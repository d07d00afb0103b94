import DataSchema.Number.Binary64

/-!
# Documents

The values that schemas describe: the JSON data model with ordered objects, and with integers kept
apart from floats. An object is a list of entries; the readers only build objects whose keys are
pairwise different, which `WellFormed` states. Looking a key up finds its first entry, and inserting
a key that is present replaces the value where it stands.
-/

namespace DataSchema

/-- Values by key, in order. -/
abbrev Entries (α : Type) := List (String × α)

namespace Entries

variable {α : Type}

/-- Sets a key: an entry that is present keeps its place, a new one goes to the end. -/
def insert (entries : Entries α) (key : String) (value : α) : Entries α :=
  match entries with
  | [] => [(key, value)]
  | (k, v) :: rest => if k = key then (key, value) :: rest else (k, v) :: insert rest key value

end Entries

inductive Document where
  | null
  | bool (value : Bool)
  | int (value : Int)
  | float (value : Binary64)
  | string (text : String)
  | array (elements : List Document)
  | object (entries : List (String × Document))
deriving Inhabited

namespace Document

def isNull : Document → Bool
  | .null => true
  | _ => false

/-- The value of an object's key; nothing for every other document. -/
def get? (key : String) : Document → Option Document
  | .object entries => entries.lookup key
  | _ => none

/-- The value of an object's key unless it is null: null means that the key is not set. -/
def getSet? (document : Document) (key : String) : Option Document :=
  (document.get? key).filter fun value => !value.isNull

mutual

def beq : Document → Document → Bool
  | .null, .null => true
  | .bool a, .bool b => a == b
  | .int a, .int b => a == b
  | .float a, .float b => a == b
  | .string a, .string b => a == b
  | .array a, .array b => beqElements a b
  | .object a, .object b => beqEntries a b
  | _, _ => false

def beqElements : List Document → List Document → Bool
  | [], [] => true
  | a :: as, b :: bs => beq a b && beqElements as bs
  | _, _ => false

def beqEntries : List (String × Document) → List (String × Document) → Bool
  | [], [] => true
  | (k, a) :: as, (l, b) :: bs => k == l && beq a b && beqEntries as bs
  | _, _ => false

end

mutual

theorem eq_of_beq : ∀ {a b : Document}, beq a b = true → a = b
  | .null, b, h => by cases b <;> simp_all [beq]
  | .bool _, b, h => by cases b <;> simp_all [beq]
  | .int _, b, h => by cases b <;> simp_all [beq]
  | .float _, b, h => by cases b <;> simp_all [beq]
  | .string _, b, h => by cases b <;> simp_all [beq]
  | .array as, .array bs, h => by exact congrArg _ (eq_of_beqElements (by simpa [beq] using h))
  | .object as, .object bs, h => by exact congrArg _ (eq_of_beqEntries (by simpa [beq] using h))
  | .array _, .null, h | .array _, .bool _, h | .array _, .int _, h
  | .array _, .float _, h | .array _, .string _, h | .array _, .object _, h => by simp [beq] at h
  | .object _, .null, h | .object _, .bool _, h | .object _, .int _, h
  | .object _, .float _, h | .object _, .string _, h | .object _, .array _, h => by simp [beq] at h

theorem eq_of_beqElements : ∀ {as bs : List Document}, beqElements as bs = true → as = bs
  | [], bs, h => by cases bs <;> simp_all [beqElements]
  | a :: as, [], h => by simp [beqElements] at h
  | a :: as, b :: bs, h => by
    simp only [beqElements, Bool.and_eq_true] at h
    rw [eq_of_beq h.1, eq_of_beqElements h.2]

theorem eq_of_beqEntries : ∀ {as bs : List (String × Document)}, beqEntries as bs = true → as = bs
  | [], bs, h => by cases bs <;> simp_all [beqEntries]
  | a :: as, [], h => by simp [beqEntries] at h
  | (k, a) :: as, (l, b) :: bs, h => by
    simp only [beqEntries, Bool.and_eq_true, beq_iff_eq] at h
    rw [h.1.1, eq_of_beq h.1.2, eq_of_beqEntries h.2]

end

mutual

theorem beq_refl : ∀ a : Document, beq a a = true
  | .null | .bool _ | .int _ | .float _ | .string _ => by simp [beq]
  | .array as => by simp [beq, beqElements_refl as]
  | .object as => by simp [beq, beqEntries_refl as]

theorem beqElements_refl : ∀ as : List Document, beqElements as as = true
  | [] => by simp [beqElements]
  | a :: as => by simp [beqElements, beq_refl a, beqElements_refl as]

theorem beqEntries_refl : ∀ as : List (String × Document), beqEntries as as = true
  | [] => by simp [beqEntries]
  | (_, a) :: as => by simp [beqEntries, beq_refl a, beqEntries_refl as]

end

instance : DecidableEq Document := fun a b =>
  if h : beq a b = true then isTrue (eq_of_beq h) else isFalse fun e => h (e ▸ beq_refl a)

mutual

/-- No object holds a key twice, at any depth. -/
def WellFormed : Document → Prop
  | .array elements => WellFormedElements elements
  | .object entries => (entries.map Prod.fst).Nodup ∧ WellFormedEntries entries
  | _ => True

def WellFormedElements : List Document → Prop
  | [] => True
  | element :: rest => element.WellFormed ∧ WellFormedElements rest

def WellFormedEntries : List (String × Document) → Prop
  | [] => True
  | (_, value) :: rest => value.WellFormed ∧ WellFormedEntries rest

end

end Document

end DataSchema
