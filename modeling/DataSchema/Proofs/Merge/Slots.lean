import DataSchema.Merge

/-!
# Laying slots over slots

Objects and keyed lists merge in the same way: a slot of the overlay is laid over the slot with the
same tag, and goes to the end when there is none or when it has no tag. How two values are combined
does not matter here. As long as combining is associative at every tag, so is laying whole lists.
-/

namespace DataSchema.Merge

def tags (slots : List Slot) : List String := slots.filterMap Prod.fst

/-- Lays a slot over slots; nothing when it meets a value that it cannot be combined with. -/
def lay (combine : String → Document → Document → Option Document) (base : List Slot) :
    Slot → Option (List Slot)
  | (none, value) => some (base ++ [(none, value)])
  | (some key, value) =>
    match find? key base with
    | some (_, current) => (combine key current value).map fun merged => replace key merged base
    | none => some (base ++ [(some key, value)])

def layAll (combine : String → Document → Document → Option Document) (base overlay : List Slot) :
    Option (List Slot) :=
  overlay.foldlM (lay combine) base

def held? (key : String) (slots : List Slot) : Option Document := (find? key slots).map Prod.snd

/-- How a value of the result comes from those of the base and the overlay, each
of which may be absent. -/
inductive Combined (combines : Document → Document → Document → Prop) :
    Option Document → Option Document → Option Document → Prop
  | base {x} : Combined combines x none x
  | overlay {y} : Combined combines none (some y) (some y)
  | both {x y merged} : combines x y merged → Combined combines (some x) (some y) (some merged)

theorem Combined.of_absent {combines : Document → Document → Document → Prop}
    (y : Option Document) : Combined combines none y y := by
  cases y with
  | none => exact .base
  | some => exact .overlay

/-! ### Finding and replacing -/

section

variable {key other : String} {value : Document} {slots more : List Slot} {slot : Slot}

theorem mem_tags : key ∈ tags slots ↔ ∃ value, (some key, value) ∈ slots := by
  simp [tags, List.mem_filterMap]

@[simp] theorem tags_append : tags (slots ++ more) = tags slots ++ tags more :=
  List.filterMap_append

theorem tags_cons_some : tags ((some key, value) :: slots) = key :: tags slots := rfl

theorem tags_cons_none : tags ((none, value) :: slots) = tags slots := rfl

theorem nodup_tags_of_cons (h : (tags (slot :: slots)).Nodup) : (tags slots).Nodup :=
  h.sublist ((List.sublist_cons_self slot slots).filterMap Prod.fst)

theorem not_mem_of_nodup_tags_cons (h : (tags ((some key, value) :: slots)).Nodup) :
    key ∉ tags slots := by
  rw [tags_cons_some, List.nodup_cons] at h
  exact h.1

theorem not_mem_tags_cons : key ∉ tags (slot :: slots) ↔ slot.1 ≠ some key ∧ key ∉ tags slots := by
  obtain ⟨tag, value⟩ := slot
  cases tag with
  | none => simp [tags_cons_none]
  | some tag =>
    rw [tags_cons_some, List.mem_cons, not_or, ne_eq, Option.some.injEq]
    exact and_congr_left fun _ => ne_comm

theorem find?_cons_self : find? key ((some key, value) :: slots) = some (0, value) := by
  rw [find?, if_pos rfl]

theorem find?_cons_of_ne (hne : slot.1 ≠ some key) :
    find? key (slot :: slots) = (find? key slots).map fun found => (found.1 + 1, found.2) := by
  rw [find?, if_neg hne]

theorem replace_cons_of_ne (hne : slot.1 ≠ some key) :
    replace key value (slot :: slots) = slot :: replace key value slots := by
  rw [replace, if_neg hne]

theorem find?_eq_none (h : key ∉ tags slots) : find? key slots = none := by
  induction slots with
  | nil => rfl
  | cons slot rest ih =>
    obtain ⟨hne, hrest⟩ := not_mem_tags_cons.1 h
    rw [find?_cons_of_ne hne, ih hrest]
    rfl

theorem exists_eq_append (h : key ∈ tags slots) :
    ∃ before current after, slots = before ++ (some key, current) :: after ∧ key ∉ tags before := by
  induction slots with
  | nil => simp [tags] at h
  | cons slot rest ih =>
    by_cases heq : slot.1 = some key
    · exact ⟨[], slot.2, rest, by rw [← heq]; rfl, by simp [tags]⟩
    · have hrest : key ∈ tags rest :=
        Decidable.not_not.1 fun hnot => not_mem_tags_cons.2 ⟨heq, hnot⟩ h
      obtain ⟨before, current, after, rfl, hbefore⟩ := ih hrest
      exact ⟨slot :: before, current, after, rfl, not_mem_tags_cons.2 ⟨heq, hbefore⟩⟩

theorem find?_append (h : key ∉ tags slots) :
    find? key (slots ++ (some key, value) :: more) = some (slots.length, value) := by
  induction slots with
  | nil => exact find?_cons_self
  | cons slot rest ih =>
    obtain ⟨hne, hrest⟩ := not_mem_tags_cons.1 h
    rw [List.cons_append, find?_cons_of_ne hne, ih hrest]
    rfl

theorem replace_append (h : key ∉ tags slots) (merged : Document) :
    replace key merged (slots ++ (some key, value) :: more) =
      slots ++ (some key, merged) :: more := by
  induction slots with
  | nil => rw [List.nil_append, replace, if_pos rfl]; rfl
  | cons slot rest ih =>
    obtain ⟨hne, hrest⟩ := not_mem_tags_cons.1 h
    rw [List.cons_append, replace_cons_of_ne hne, ih hrest]
    rfl

theorem exists_find?_of_mem (h : key ∈ tags slots) :
    ∃ place value, find? key slots = some (place, value) := by
  obtain ⟨before, current, after, rfl, hbefore⟩ := exists_eq_append h
  exact ⟨_, _, find?_append hbefore⟩

theorem mem_of_find? {place : Nat} (h : find? key slots = some (place, value)) :
    (some key, value) ∈ slots := by
  have hmem : key ∈ tags slots := Decidable.not_not.1 fun hnot => by simp [find?_eq_none hnot] at h
  obtain ⟨before, current, after, rfl, hbefore⟩ := exists_eq_append hmem
  rw [find?_append hbefore] at h
  cases h
  simp

theorem held?_of_mem (hnodup : (tags slots).Nodup) (h : (some key, value) ∈ slots) :
    held? key slots = some value := by
  induction slots with
  | nil => cases h
  | cons slot rest ih =>
    rcases List.mem_cons.1 h with rfl | hrest
    · rw [held?, find?_cons_self]
      rfl
    · have hne : slot.1 ≠ some key := by
        intro heq
        obtain ⟨_, current⟩ := slot
        subst heq
        exact not_mem_of_nodup_tags_cons hnodup (mem_tags.2 ⟨value, hrest⟩)
      rw [held?, find?_cons_of_ne hne, Option.map_map]
      exact ih (nodup_tags_of_cons hnodup) hrest

theorem find?_replace_self {place : Nat} (h : find? key slots = some (place, value))
    (merged : Document) :
    find? key (replace key merged slots) = some (place, merged) := by
  obtain ⟨before, current, after, rfl, hbefore⟩ :=
    exists_eq_append (mem_tags.2 ⟨value, mem_of_find? h⟩)
  rw [find?_append hbefore] at h
  rw [replace_append hbefore, find?_append hbefore]
  cases h
  rfl

theorem replace_of_find? {place : Nat} (h : find? key slots = some (place, value)) :
    replace key value slots = slots := by
  obtain ⟨before, current, after, rfl, hbefore⟩ :=
    exists_eq_append (mem_tags.2 ⟨value, mem_of_find? h⟩)
  rw [find?_append hbefore] at h
  cases h
  exact replace_append hbefore value

theorem find?_append_of_ne (hne : slot.1 ≠ some key) :
    find? key (slots ++ [slot]) = find? key slots := by
  by_cases hmem : key ∈ tags slots
  · obtain ⟨before, current, after, rfl, hbefore⟩ := exists_eq_append hmem
    rw [List.append_assoc, List.cons_append, find?_append hbefore, find?_append hbefore]
  · have hmore : key ∉ tags (slots ++ [slot]) := by
      rw [tags_append, List.mem_append, not_or]
      exact ⟨hmem, not_mem_tags_cons.2 ⟨hne, by simp [tags]⟩⟩
    rw [find?_eq_none hmem, find?_eq_none hmore]

theorem find?_replace_of_ne (hne : other ≠ key) (merged : Document) :
    find? other (replace key merged slots) = find? other slots := by
  induction slots with
  | nil => rfl
  | cons slot rest ih =>
    obtain ⟨tag, current⟩ := slot
    by_cases hkey : tag = some key
    · have hother : tag ≠ some other := fun h => hne (Option.some.inj (h.symm.trans hkey))
      rw [replace, if_pos hkey, find?_cons_of_ne hother, find?_cons_of_ne hother]
    · rw [replace_cons_of_ne hkey, find?, find?, ih]

theorem tags_replace (merged : Document) : tags (replace key merged slots) = tags slots := by
  induction slots with
  | nil => rfl
  | cons slot rest ih =>
    obtain ⟨tag, current⟩ := slot
    rw [replace]
    split
    · cases tag <;> rfl
    · cases tag with
      | none => rw [tags_cons_none, tags_cons_none, ih]
      | some tag => rw [tags_cons_some, tags_cons_some, ih]

theorem length_replace (merged : Document) : (replace key merged slots).length = slots.length := by
  induction slots with
  | nil => rfl
  | cons slot rest ih =>
    rw [replace]
    split <;> simp [ih]

theorem mem_replace {merged : Document} (h : slot ∈ replace key merged slots) :
    slot = (some key, merged) ∨ slot ∈ slots := by
  induction slots with
  | nil => simp [replace] at h
  | cons first rest ih =>
    by_cases hkey : first.1 = some key
    · rw [replace, if_pos hkey, hkey] at h
      rcases List.mem_cons.1 h with rfl | hrest
      · exact .inl rfl
      · exact .inr (List.mem_cons_of_mem _ hrest)
    · rw [replace_cons_of_ne hkey] at h
      rcases List.mem_cons.1 h with rfl | hrest
      · exact .inr List.mem_cons_self
      · exact (ih hrest).imp_right (List.mem_cons_of_mem _)

theorem replace_append_of_mem (h : key ∈ tags slots) (merged : Document) :
    replace key merged (slots ++ more) = replace key merged slots ++ more := by
  obtain ⟨before, current, after, rfl, hbefore⟩ := exists_eq_append h
  rw [List.append_assoc, List.cons_append, replace_append hbefore, replace_append hbefore,
    List.append_assoc, List.cons_append]

theorem replace_comm (hne : other ≠ key) (first second : Document) :
    replace other second (replace key first slots) =
      replace key first (replace other second slots) := by
  induction slots with
  | nil => rfl
  | cons slot rest ih =>
    obtain ⟨tag, current⟩ := slot
    by_cases hkey : tag = some key
    · have hother : tag ≠ some other := fun h => hne (Option.some.inj (h.symm.trans hkey))
      simp only [replace, if_pos hkey, if_neg hother]
    · by_cases hother : tag = some other
      · simp only [replace, if_neg hkey, if_pos hother]
      · simp only [replace, if_neg hkey, if_neg hother, ih]

end

/-! ### Laying one slot -/

section

variable {combine : String → Document → Document → Option Document}
  {base overlay result : List Slot} {key : String} {value current : Document} {slot : Slot}

theorem lay_of_not_mem (h : key ∉ tags base) :
    lay combine base (some key, value) = some (base ++ [(some key, value)]) := by
  rw [lay, find?_eq_none h]

theorem lay_of_find? {place : Nat} (h : find? key base = some (place, current)) :
    lay combine base (some key, value) = (combine key current value).map fun merged =>
      replace key merged base := by
  rw [lay, h]

theorem lay_cons_self : lay combine ((some key, current) :: base) (some key, value) =
    (combine key current value).map fun merged => (some key, merged) :: base := by
  simp only [lay_of_find? find?_cons_self, replace, if_pos]

theorem lay_cons_of_ne {first : Slot} (hne : first.1 ≠ slot.1 ∨ slot.1 = none) :
    lay combine (first :: base) slot = (lay combine base slot).map (first :: ·) := by
  obtain ⟨tag, value⟩ := slot
  cases tag with
  | none => rfl
  | some key =>
    have hfirst : first.1 ≠ some key := hne.resolve_right (by simp)
    cases hfind : find? key base with
    | none =>
      have hnone : find? key (first :: base) = none := by rw [find?_cons_of_ne hfirst, hfind]; rfl
      rw [lay, lay, hnone, hfind]
      rfl
    | some found =>
      have hfound : find? key (first :: base) = some (found.1 + 1, found.2) := by
        rw [find?_cons_of_ne hfirst, hfind]; rfl
      rw [lay_of_find? hfound, lay_of_find? hfind, Option.map_map]
      congr 1
      funext merged
      exact replace_cons_of_ne hfirst

/-- Laying a slot keeps the tags in place and adds its own at the end if it is new. -/
theorem tags_lay (h : lay combine base slot = some result) :
    tags result = tags base ∨ ∃ key, slot.1 = some key ∧ key ∉ tags base ∧
      tags result = tags base ++ [key] := by
  obtain ⟨tag, value⟩ := slot
  cases tag with
  | none =>
    cases h
    exact .inl (by simp [tags])
  | some key =>
    by_cases hmem : key ∈ tags base
    · obtain ⟨place, current, hfind⟩ := exists_find?_of_mem hmem
      rw [lay_of_find? hfind] at h
      obtain ⟨merged, -, rfl⟩ := Option.map_eq_some_iff.1 h
      exact .inl (tags_replace merged)
    · rw [lay_of_not_mem hmem] at h
      cases h
      exact .inr ⟨key, rfl, hmem, tags_append⟩

theorem nodup_tags_lay (hnodup : (tags base).Nodup) (h : lay combine base slot = some result) :
    (tags result).Nodup := by
  rcases tags_lay h with heq | ⟨key, -, hnew, heq⟩
  · rwa [heq]
  · rw [heq, List.nodup_append]
    refine ⟨hnodup, by simp, fun tag htag last hlast hsame => hnew ?_⟩
    rwa [← List.mem_singleton.1 hlast, ← hsame]

theorem mem_tags_lay (h : lay combine base slot = some result) (hmem : key ∈ tags base) :
    key ∈ tags result := by
  rcases tags_lay h with heq | ⟨last, -, -, heq⟩
  · rwa [heq]
  · rw [heq]
    exact List.mem_append_left _ hmem

theorem tag_mem_tags_lay (h : lay combine base (some key, value) = some result) :
    key ∈ tags result := by
  by_cases hmem : key ∈ tags base
  · exact mem_tags_lay h hmem
  · rw [lay_of_not_mem hmem] at h
    cases h
    rw [tags_append]
    exact List.mem_append_right _ List.mem_cons_self

theorem mem_lay (h : lay combine base slot = some result) {found : Slot} (hmem : found ∈ result) :
    found ∈ base ∨ found = slot ∨ ∃ key current merged, slot.1 = some key ∧
      (some key, current) ∈ base ∧
      combine key current slot.2 = some merged ∧ found = (some key, merged) := by
  obtain ⟨tag, value⟩ := slot
  cases tag with
  | none =>
    cases h
    rcases List.mem_append.1 hmem with hbase | hnew
    · exact .inl hbase
    · exact .inr (.inl (List.mem_singleton.1 hnew))
  | some key =>
    by_cases hkey : key ∈ tags base
    · obtain ⟨place, current, hfind⟩ := exists_find?_of_mem hkey
      rw [lay_of_find? hfind] at h
      obtain ⟨merged, hmerged, rfl⟩ := Option.map_eq_some_iff.1 h
      rcases mem_replace hmem with rfl | hbase
      · exact .inr (.inr ⟨key, current, merged, rfl, mem_of_find? hfind, hmerged, rfl⟩)
      · exact .inl hbase
    · rw [lay_of_not_mem hkey] at h
      cases h
      rcases List.mem_append.1 hmem with hbase | hnew
      · exact .inl hbase
      · exact .inr (.inl (List.mem_singleton.1 hnew))

theorem length_le_lay (h : lay combine base slot = some result) : base.length ≤ result.length := by
  obtain ⟨tag, value⟩ := slot
  cases tag with
  | none =>
    cases h
    simp
  | some key =>
    by_cases hmem : key ∈ tags base
    · obtain ⟨place, current, hfind⟩ := exists_find?_of_mem hmem
      rw [lay_of_find? hfind] at h
      obtain ⟨merged, -, rfl⟩ := Option.map_eq_some_iff.1 h
      exact Nat.le_of_eq (length_replace ..).symm
    · rw [lay_of_not_mem hmem] at h
      cases h
      simp

/-- Laying at a tag that is present commutes with laying at any other place. -/
theorem lay_comm (hmem : key ∈ tags base) (hne : slot.1 ≠ some key) :
    (lay combine base slot).bind (lay combine · (some key, value)) =
      (lay combine base (some key, value)).bind (lay combine · slot) := by
  obtain ⟨place, current, hfind⟩ := exists_find?_of_mem hmem
  rw [lay_of_find? hfind]
  have happended : lay combine (base ++ [slot]) (some key, value) =
      (combine key current value).map fun merged => replace key merged base ++ [slot] := by
    have hsame : find? key (base ++ [slot]) = some (place, current) :=
      (find?_append_of_ne hne).trans hfind
    simp only [lay_of_find? hsame, replace_append_of_mem hmem]
  obtain ⟨tag, other⟩ := slot
  cases tag with
  | none =>
    rw [lay, Option.bind_some, happended]
    cases combine key current value <;> rfl
  | some tag =>
    have htag : tag ≠ key := fun h => hne (h ▸ rfl)
    by_cases hpresent : tag ∈ tags base
    · obtain ⟨place', current', hfind'⟩ := exists_find?_of_mem hpresent
      rw [lay_of_find? hfind']
      have hleft : ∀ merged, lay combine (replace tag merged base) (some key, value) =
          (combine key current value).map fun merged' =>
            replace key merged' (replace tag merged base) := fun merged =>
        lay_of_find? ((find?_replace_of_ne htag.symm merged).trans hfind)
      have hright : ∀ merged, lay combine (replace key merged base) (some tag, other) =
          (combine tag current' other).map fun merged' =>
            replace tag merged' (replace key merged base) := fun merged =>
        lay_of_find? ((find?_replace_of_ne htag merged).trans hfind')
      cases hkey : combine key current value <;> cases hother : combine tag current' other <;>
        simp [hleft, hright, hkey, hother, replace_comm htag]
    · have hright : ∀ merged, lay combine (replace key merged base) (some tag, other) =
          some (replace key merged base ++ [(some tag, other)]) := fun merged =>
        lay_of_not_mem (by rwa [tags_replace])
      rw [lay_of_not_mem hpresent, Option.bind_some, happended]
      cases combine key current value with
      | none => rfl
      | some merged => simp [hright]

theorem lay_append {before after : List Slot} (h : key ∉ tags before) :
    lay combine (before ++ (some key, current) :: after) (some key, value) =
      (combine key current value).map fun merged => before ++ (some key, merged) :: after := by
  simp only [lay_of_find? (find?_append h), replace_append h]

/-- Laying two values at the same tag is laying their combination, if
combining is associative there. -/
theorem lay_lay {top : Document}
    (hassoc : ∀ x, (some key, x) ∈ base → (combine key x value).bind (combine key · top) =
      (combine key value top).bind (combine key x)) :
    (lay combine base (some key, value)).bind (lay combine · (some key, top)) =
      (combine key value top).bind fun merged => lay combine base (some key, merged) := by
  by_cases hmem : key ∈ tags base
  · obtain ⟨before, x, after, rfl, hbefore⟩ := exists_eq_append hmem
    have hsame := hassoc x (by simp)
    have hmapped := congrArg (Option.map fun merged => before ++ (some key, merged) :: after) hsame
    simpa only [lay_append hbefore, Option.bind_map, Option.map_bind,
      Function.comp_def] using hmapped
  · simp only [lay_of_not_mem hmem, Option.bind_some, lay_append hmem]
    cases combine key value top <;> rfl

end

/-! ### Laying whole lists -/

section

variable {combine : String → Document → Document → Option Document}
  {base middle overlay result : List Slot} {key : String} {value : Document} {slot : Slot}

theorem layAll_cons : layAll combine base (slot :: overlay) =
    (lay combine base slot).bind (layAll combine · overlay) := rfl

theorem layAll_lay_comm (hmem : key ∈ tags base) (hnot : key ∉ tags overlay) :
    (layAll combine base overlay).bind (lay combine · (some key, value)) =
      (lay combine base (some key, value)).bind (layAll combine · overlay) := by
  induction overlay generalizing base with
  | nil =>
    exact (Option.bind_fun_some _).symm
  | cons slot rest ih =>
    obtain ⟨hne, hrest⟩ := not_mem_tags_cons.1 hnot
    calc (layAll combine base (slot :: rest)).bind (lay combine · (some key, value))
        = (lay combine base slot).bind fun b =>
            (layAll combine b rest).bind (lay combine · (some key, value)) := by
          rw [layAll_cons, Option.bind_assoc]
      _ = (lay combine base slot).bind fun b =>
            (lay combine b (some key, value)).bind (layAll combine · rest) :=
          Option.bind_congr fun b hb => ih (mem_tags_lay hb hmem) hrest
      _ = (lay combine base (some key, value)).bind fun b =>
            (lay combine b slot).bind (layAll combine · rest) := by
          rw [← Option.bind_assoc, lay_comm hmem hne, Option.bind_assoc]

theorem layAll_lay_assoc (hnodup : (tags middle).Nodup)
    (hassoc : ∀ key x y, slot.1 = some key → (some key, x) ∈ base → (some key, y) ∈ middle →
      (combine key x y).bind (combine key · slot.2) = (combine key y slot.2).bind (combine key x)) :
    (layAll combine base middle).bind (lay combine · slot) =
      (lay combine middle slot).bind (layAll combine base) := by
  induction middle generalizing base with
  | nil =>
    have hsingle : lay combine [] slot = some [slot] := by
      obtain ⟨tag, value⟩ := slot
      cases tag <;> rfl
    rw [hsingle, Option.bind_some, layAll_cons]
    exact (Option.bind_fun_some _).symm
  | cons first rest ih =>
    obtain ⟨tag, y⟩ := first
    by_cases hsame : ∃ key, tag = some key ∧ slot.1 = some key
    · obtain ⟨key, rfl, htag⟩ := hsame
      obtain ⟨_, z⟩ := slot
      subst htag
      rw [lay_cons_self, layAll_cons, Option.bind_assoc, Option.bind_map]
      calc (lay combine base (some key, y)).bind (fun b =>
            (layAll combine b rest).bind (lay combine · (some key, z)))
          = (lay combine base (some key, y)).bind fun b =>
              (lay combine b (some key, z)).bind (layAll combine · rest) :=
            Option.bind_congr fun b hb =>
              layAll_lay_comm (tag_mem_tags_lay hb) (not_mem_of_nodup_tags_cons hnodup)
        _ = (combine key y z).bind fun merged =>
              (lay combine base (some key, merged)).bind (layAll combine · rest) := by
            rw [← Option.bind_assoc, lay_lay fun x hx => hassoc key x y rfl hx List.mem_cons_self,
              Option.bind_assoc]
    · have hne : tag ≠ slot.1 ∨ slot.1 = none := by
        cases htag : slot.1 with
        | none => exact .inr rfl
        | some key => exact .inl fun heq => hsame ⟨key, heq, htag⟩
      have hrest : (tags rest).Nodup := nodup_tags_of_cons hnodup
      rw [layAll_cons, Option.bind_assoc, lay_cons_of_ne hne, Option.bind_map]
      calc (lay combine base (tag, y)).bind (fun b =>
            (layAll combine b rest).bind (lay combine · slot))
          = (lay combine base (tag, y)).bind fun b =>
              (lay combine rest slot).bind (layAll combine b) := by
            refine Option.bind_congr fun b hb => ih hrest fun key x y' hslot hx hy => ?_
            -- Laying the first slot changes nothing at the tag of the new one.
            have hbase : (some key, x) ∈ base := by
              rcases mem_lay hb hx with hbase | heq | ⟨key', _, _, htag, _, _, heq⟩
              · exact hbase
              · exact absurd ⟨key, (congrArg Prod.fst heq).symm, hslot⟩ hsame
              · exact absurd ⟨key, htag.trans (congrArg Prod.fst heq).symm, hslot⟩ hsame
            exact hassoc key x y' hslot hbase (List.mem_cons_of_mem _ hy)
        _ = (lay combine rest slot).bind fun r =>
              (lay combine base (tag, y)).bind (layAll combine · r) :=
            Option.bind_comm _ _

/-- Laying lists of slots is associative when combining is associative at every
tag that all three have. -/
theorem layAll_assoc (hmiddle : (tags middle).Nodup) (hoverlay : (tags overlay).Nodup)
    (hassoc : ∀ key x y z, (some key, x) ∈ base → (some key, y) ∈ middle → (some key, z) ∈ overlay →
      (combine key x y).bind (combine key · z) = (combine key y z).bind (combine key x)) :
    (layAll combine base middle).bind (layAll combine · overlay) =
      (layAll combine middle overlay).bind (layAll combine base) := by
  induction overlay generalizing middle with
  | nil => exact Option.bind_fun_some _
  | cons slot rest ih =>
    obtain ⟨tag, value⟩ := slot
    have hrest : (tags rest).Nodup := nodup_tags_of_cons hoverlay
    have hnew : ∀ key z, tag = some key → (some key, z) ∉ rest := by
      rintro key z rfl hmem
      exact not_mem_of_nodup_tags_cons hoverlay (mem_tags.2 ⟨z, hmem⟩)
    have hfirst : (layAll combine base middle).bind (lay combine · (tag, value)) =
        (lay combine middle (tag, value)).bind (layAll combine base) := by
      refine layAll_lay_assoc hmiddle fun key x y htag hx hy => ?_
      cases htag
      exact hassoc key x y value hx hy List.mem_cons_self
    calc (layAll combine base middle).bind (layAll combine · ((tag, value) :: rest))
        = ((layAll combine base middle).bind (lay combine · (tag, value))).bind
            (layAll combine · rest) :=
          (Option.bind_assoc _ _ _).symm
      _ = (lay combine middle (tag, value)).bind fun m =>
            (layAll combine base m).bind (layAll combine · rest) := by
          rw [hfirst, Option.bind_assoc]
      _ = (lay combine middle (tag, value)).bind fun m =>
            (layAll combine m rest).bind (layAll combine base) := by
          refine Option.bind_congr fun m hm => ih (nodup_tags_lay hmiddle hm) hrest
            fun key x y z hx hy hz => ?_
          -- The tags of the rest differ from that of the first slot, so there
          -- the middle is unchanged.
          have hold : (some key, y) ∈ middle := by
            rcases mem_lay hm hy with hold | heq | ⟨key', _, _, htag, _, _, heq⟩
            · exact hold
            · cases heq
              exact absurd hz (hnew key z rfl)
            · cases heq
              exact absurd hz (hnew key z htag)
          exact hassoc key x y z hx hold (List.mem_cons_of_mem _ hz)
      _ = (layAll combine middle ((tag, value) :: rest)).bind (layAll combine base) := by
          rw [layAll_cons, Option.bind_assoc]

theorem nodup_tags_layAll (hnodup : (tags base).Nodup)
    (h : layAll combine base overlay = some result) : (tags result).Nodup := by
  induction overlay generalizing base with
  | nil =>
    cases h
    exact hnodup
  | cons slot rest ih =>
    obtain ⟨next, hnext, hrest⟩ := Option.bind_eq_some_iff.1 h
    exact ih (nodup_tags_lay hnodup hnext) hrest

theorem forall_mem_layAll {good : Slot → Prop} (hbase : ∀ slot ∈ base, good slot)
    (hoverlay : ∀ slot ∈ overlay, good slot) (hcombine : ∀ key x y merged, good (some key, x) →
      (some key, y) ∈ overlay → combine key x y = some merged →
      good (some key, merged)) (h : layAll combine base overlay = some result) :
      ∀ slot ∈ result, good slot := by
  induction overlay generalizing base with
  | nil =>
    cases h
    exact hbase
  | cons slot rest ih =>
    obtain ⟨next, hnext, hrest⟩ := Option.bind_eq_some_iff.1 h
    refine ih (fun found hfound => ?_) (fun found hfound =>
        hoverlay found (List.mem_cons_of_mem _ hfound))
      (fun key x y merged hx hy => hcombine key x y merged hx (List.mem_cons_of_mem _ hy)) hrest
    rcases mem_lay hnext hfound with hold | rfl
      | ⟨key, current, merged, htag, hcurrent, hmerged, rfl⟩
    · exact hbase found hold
    · exact hoverlay found List.mem_cons_self
    · have hslot : (some key, slot.2) ∈ slot :: rest := by rw [← htag]; exact List.mem_cons_self
      exact hcombine key current slot.2 merged (hbase _ hcurrent) hslot hmerged

theorem find?_lay_of_ne (hne : slot.1 ≠ some key) (h : lay combine base slot = some result) :
    find? key result = find? key base := by
  obtain ⟨tag, value⟩ := slot
  cases tag with
  | none =>
    cases h
    exact find?_append_of_ne hne
  | some tag =>
    by_cases hmem : tag ∈ tags base
    · obtain ⟨place, current, hcurrent⟩ := exists_find?_of_mem hmem
      rw [lay_of_find? hcurrent] at h
      obtain ⟨merged, -, rfl⟩ := Option.map_eq_some_iff.1 h
      exact find?_replace_of_ne (fun heq => hne (congrArg some heq.symm)) merged
    · rw [lay_of_not_mem hmem] at h
      cases h
      exact find?_append_of_ne hne

theorem find?_layAll_of_not_mem (hnot : key ∉ tags overlay)
    (h : layAll combine base overlay = some result) :
    find? key result = find? key base := by
  induction overlay generalizing base with
  | nil =>
    cases h
    rfl
  | cons slot rest ih =>
    obtain ⟨hne, hrest⟩ := not_mem_tags_cons.1 hnot
    obtain ⟨next, hnext, h⟩ := Option.bind_eq_some_iff.1 h
    rw [ih hrest h, find?_lay_of_ne hne hnext]

/-- At every tag, the result holds what the only side with this tag holds, or what the
two sides are combined to. -/
theorem combined_layAll (hnodup : (tags overlay).Nodup)
    (h : layAll combine base overlay = some result) (key : String) :
    Combined (fun x y merged => combine key x y = some merged) (held? key base) (held? key overlay)
      (held? key result) := by
  induction overlay generalizing base with
  | nil =>
    cases h
    exact .base
  | cons slot rest ih =>
    obtain ⟨next, hnext, hrest⟩ := Option.bind_eq_some_iff.1 h
    by_cases htag : slot.1 = some key
    · obtain ⟨_, value⟩ := slot
      subst htag
      have hresult : held? key result = held? key next := by
        rw [held?, find?_layAll_of_not_mem (not_mem_of_nodup_tags_cons hnodup) hrest, held?]
      have hvalue : held? key ((some key, value) :: rest) = some value := by
        rw [held?, find?_cons_self]
        rfl
      rw [hresult, hvalue]
      by_cases hmem : key ∈ tags base
      · obtain ⟨place, current, hfind⟩ := exists_find?_of_mem hmem
        rw [lay_of_find? hfind] at hnext
        obtain ⟨merged, hmerged, rfl⟩ := Option.map_eq_some_iff.1 hnext
        rw [held?, hfind, held?, find?_replace_self hfind merged]
        exact .both hmerged
      · rw [lay_of_not_mem hmem] at hnext
        cases hnext
        rw [held?, find?_eq_none hmem, held?, find?_append hmem]
        exact .overlay
    · have hbase : held? key next = held? key base := by
        rw [held?, find?_lay_of_ne htag hnext, held?]
      have hoverlay : held? key (slot :: rest) = held? key rest := by
        rw [held?, find?_cons_of_ne htag, Option.map_map, held?]
        rfl
      rw [← hbase, hoverlay]
      exact ih (nodup_tags_of_cons hnodup) hrest

theorem length_le_layAll (h : layAll combine base overlay = some result) :
    base.length ≤ result.length := by
  induction overlay generalizing base with
  | nil =>
    cases h
    exact Nat.le_refl _
  | cons slot rest ih =>
    obtain ⟨next, hnext, hrest⟩ := Option.bind_eq_some_iff.1 h
    exact Nat.le_trans (length_le_lay hnext) (ih hrest)

end

end DataSchema.Merge
