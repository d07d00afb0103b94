import DataSchema.Document.Compact
import DataSchema.Document.Token
import DataSchema.Proofs.Base
import DataSchema.Proofs.Number.Text

/-!
# The canonical text of a document determines it

A text shows with its first character what kind of document it belongs to. Brackets and quotes show
where an array, an object or a string ends; a number goes on for as long as its characters do. So a
text that is followed by a comma, a bracket or nothing at all belongs to one document only.
-/

namespace DataSchema

/-! ### Quoted texts -/

namespace Token

theorem scanString_plain {c : Char} (hquote : c ≠ '"') (hbackslash : c ≠ '\\') (hc : ¬ c.val < 0x20)
    (read rest : List Char) :
    scanString read (c :: rest) = scanString (c :: read) rest := by
  rw [scanString]
  · exact if_neg hc
  · exact hquote
  · exact fun _ _ _ _ _ _ _ _ _ h _ => hbackslash h
  · exact fun _ _ _ _ _ h _ => hbackslash h
  · exact fun _ _ h _ => hbackslash h

theorem scanString_escape {e c : Char} (he : escaped? e = some c) (read rest : List Char) :
    scanString read ('\\' :: e :: rest) = scanString (c :: read) rest := by
  have hunicode : e ≠ 'u' := by
    rintro rfl
    cases he
  rw [scanString]
  · rw [he]
    rfl
  · exact fun _ _ _ _ _ _ _ _ _ h _ => hunicode h
  · exact fun _ _ _ _ _ h _ => hunicode h

theorem scanString_unicode {a b c d : Char} {unit : Nat} (hunit : fourHex? a b c d = some unit)
    (hlow : unit < 0xD800) (read rest : List Char) :
    scanString read ('\\' :: 'u' :: a :: b :: c :: d :: rest) =
      scanString (Char.ofNat unit :: read) rest := by
  have hhigh : ¬ (0xD800 ≤ unit ∧ unit < 0xDC00) := by omega
  have hlone : ¬ (0xDC00 ≤ unit ∧ unit < 0xE000) := by omega
  have hsurrogate : ¬ (0xD800 ≤ unit ∧ unit < 0xE000) := by omega
  -- The scanner looks whether one more such escape follows, which matters behind the
  -- first half of a pair only.
  by_cases hnext : ∃ e f g h after, rest = '\\' :: 'u' :: e :: f :: g :: h :: after
  · obtain ⟨e, f, g, h, after, rfl⟩ := hnext
    rw [scanString, hunit]
    simp only [Option.bind_eq_bind, Option.bind_some, if_neg hhigh, if_neg hlone]
  · rw [scanString, hunit]
    · simp only [Option.bind_eq_bind, Option.bind_some, if_neg hsurrogate]
    · exact fun e f g h after hrest => hnext ⟨e, f, g, h, after, hrest⟩

theorem scanString_escapeChar (c : Char) (read rest : List Char) :
    scanString read (Text.escapeChar c ++ rest) = scanString (c :: read) rest := by
  have hcontrol : ∀ unit < 0x20,
      fourHex? '0' '0' (Text.hexDigit (unit / 16)) (Text.hexDigit (unit % 16)) = some unit := by
    decide
  unfold Text.escapeChar
  split_ifs with hquote hbackslash hplain h h h h h
  · subst hquote
    exact scanString_escape rfl read rest
  · subst hbackslash
    exact scanString_escape rfl read rest
  · exact scanString_plain hquote hbackslash (UInt32.not_lt.2 hplain) read rest
  · subst h
    exact scanString_escape rfl read rest
  · subst h
    exact scanString_escape rfl read rest
  · subst h
    exact scanString_escape rfl read rest
  · subst h
    exact scanString_escape rfl read rest
  · subst h
    exact scanString_escape rfl read rest
  · have hlow : c.toNat < 0x20 := UInt32.not_le.1 hplain
    have hscan := scanString_unicode (hcontrol c.toNat hlow) (by omega) read rest
    rwa [Char.ofNat_toNat] at hscan

theorem scanString_escaped (text read rest : List Char) :
    scanString read (text.flatMap Text.escapeChar ++ '"' :: rest) =
      some (String.ofList (read.reverse ++ text), rest) := by
  induction text generalizing read with
  | nil => rw [List.flatMap_nil, List.nil_append, scanString, List.append_nil]
  | cons c text ih =>
    rw [List.flatMap_cons, List.append_assoc, scanString_escapeChar, ih, List.reverse_cons,
      List.append_assoc]
    rfl

end Token

namespace Text

variable {i j : Int} {r s : List Char}

theorem quoted_append_inj {first second : String} (h : quoted first ++ r = quoted second ++ s) :
    first = second ∧ r = s := by
  have hread : ∀ (text : String) rest, Token.scanString [] ((quoted text ++ rest).tail) =
      some (text, rest) := by
    intro text rest
    have hscan := Token.scanString_escaped text.toList [] rest
    rw [List.reverse_nil, List.nil_append, String.ofList_toList] at hscan
    have hquoted : quoted text ++ rest =
        '"' :: (text.toList.flatMap escapeChar ++ '"' :: rest) := by simp [quoted]
    rw [hquoted, List.tail_cons, hscan]
  have hboth := (hread first r).symm.trans (h ▸ hread second s)
  exact Prod.mk.inj (Option.some.inj hboth)

/-! ### Integers -/

theorem mem_integer : ∀ c ∈ integer i, c.isDigit = true ∨ c = '-' := by
  unfold integer
  split_ifs
  · exact List.forall_mem_cons.2 ⟨.inr rfl, fun c hc => .inl (isDigit_of_mem_toDigits c hc)⟩
  · exact fun c hc => .inl (isDigit_of_mem_toDigits c hc)

theorem integer_ne_nil (i : Int) : integer i ≠ [] := by
  unfold integer
  split_ifs
  · exact List.cons_ne_nil _ _
  · exact Nat.toDigits_ne_nil

theorem toDigits_ne_minus (n : Nat) (rest : List Char) : Nat.toDigits 10 n ≠ '-' :: rest := by
  intro h
  have hdigit := isDigit_of_mem_toDigits '-' (h ▸ List.mem_cons_self)
  exact absurd hdigit (by decide)

theorem integer_injective : Function.Injective integer := by
  have htoDigits : ∀ {n m}, Nat.toDigits 10 n = Nat.toDigits 10 m → n = m := by
    intro n m h
    rw [← Nat.ofDigitChars_ten_toDigits (n := n), h, Nat.ofDigitChars_ten_toDigits]
  intro i j h
  unfold integer at h
  split_ifs at h with hi hj hj
  · have habs := htoDigits (List.cons.inj h).2
    omega
  · exact absurd h.symm (toDigits_ne_minus _ _)
  · exact absurd h (toDigits_ne_minus _ _)
  · have habs := htoDigits h
    omega

theorem integer_ne_text (i : Int) (x : Binary64) : integer i ≠ x.text := by
  intro h
  rcases h ▸ x.mem_text with hmark | hmark <;> exact absurd (mem_integer _ hmark) (by decide)

end Text

/-! ### Lists of items -/

/-- What may follow an item of an array or object: nothing, a comma or the closing bracket. -/
def Stops (rest : List Char) : Prop := ∀ c ∈ rest.head?, c = ',' ∨ c = ']' ∨ c = '\x7d'

/-- Where the text of the item ends can be seen from the text, and so can the item. -/
def SelfDelimiting {α : Type} (item : α → List Char) (a : α) : Prop :=
  ∀ b r s, Stops r → Stops s → item a ++ r = item b ++ s → a = b ∧ r = s

def separated {α : Type} (item : α → List Char) : List α → List Char
  | [] => []
  | a :: rest => item a ++ rest.flatMap fun b => ',' :: item b

section Separated

variable {α : Type} {item : α → List Char} {close : Char} {as bs : List α} {r s : List Char}

theorem stops_flatMap (hclose : close = ']' ∨ close = '\x7d') (as : List α) (r : List Char) :
    Stops (as.flatMap (fun a => ',' :: item a) ++ close :: r) := by
  cases as with
  | nil => exact fun c hc => Option.some.inj hc ▸ .inr hclose
  | cons a as => exact fun c hc => .inl (Option.some.inj hc).symm

theorem flatMap_append_inj (hclose : close = ']' ∨ close = '\x7d')
    (hitem : ∀ a ∈ as, SelfDelimiting item a)
    (h : as.flatMap (fun a => ',' :: item a) ++ close :: r =
      bs.flatMap (fun b => ',' :: item b) ++ close :: s) :
    as = bs ∧ r = s := by
  have hcomma : close ≠ ',' := by rintro rfl; simp at hclose
  induction as generalizing bs with
  | nil =>
    cases bs with
    | nil => exact ⟨rfl, (List.cons.inj h).2⟩
    | cons b bs => exact absurd (List.cons.inj h).1 hcomma
  | cons a as ih =>
    cases bs with
    | nil => exact absurd (List.cons.inj h).1.symm hcomma
    | cons b bs =>
      simp only [List.flatMap_cons, List.cons_append, List.append_assoc, List.cons.injEq,
        true_and] at h
      obtain ⟨rfl, hrest⟩ :=
        hitem a List.mem_cons_self b _ _ (stops_flatMap hclose as r) (stops_flatMap hclose bs s) h
      obtain ⟨rfl, rfl⟩ := ih (fun a ha => hitem a (List.mem_cons_of_mem _ ha)) hrest
      exact ⟨rfl, rfl⟩

/-- Items with commas between them can be told from their text up to the closing bracket. -/
theorem separated_append_inj (hclose : close = ']' ∨ close = '\x7d')
    (hopen : ∀ b r s, item b ++ r ≠ close :: s) (hitem : ∀ a ∈ as, SelfDelimiting item a)
    (h : separated item as ++ close :: r = separated item bs ++ close :: s) :
    as = bs ∧ r = s := by
  cases as with
  | nil =>
    cases bs with
    | nil => exact ⟨rfl, (List.cons.inj h).2⟩
    | cons b bs =>
      rw [separated, separated, List.append_assoc] at h
      exact absurd h.symm (hopen b _ _)
  | cons a as =>
    cases bs with
    | nil =>
      rw [separated, separated, List.append_assoc] at h
      exact absurd h (hopen a _ _)
    | cons b bs =>
      rw [separated, separated, List.append_assoc, List.append_assoc] at h
      obtain ⟨rfl, hrest⟩ :=
        hitem a List.mem_cons_self b _ _ (stops_flatMap hclose as r) (stops_flatMap hclose bs s) h
      obtain ⟨rfl, rfl⟩ :=
        flatMap_append_inj hclose (fun a ha => hitem a (List.mem_cons_of_mem _ ha)) hrest
      exact ⟨rfl, rfl⟩

end Separated

/-! ### Documents -/

namespace Document

variable {a b : Document} {r s : List Char}

/-- The kind of a text's first character; all that begin a number are of one kind. -/
def kindOf (c : Char) : Char := if Text.isNumeric c then '0' else c

def opening : Document → Char
  | .null => 'n'
  | .bool value => if value then 't' else 'f'
  | .int _ | .float _ => '0'
  | .string _ => '"'
  | .array _ => '['
  | .object _ => '\x7b'

theorem isNumeric_of_opening (h : a.opening = '0') :
    ∀ c ∈ a.compactChars, Text.isNumeric c = true := by
  cases a with
  | int i =>
    intro c hc
    rw [compactChars] at hc
    rcases Text.mem_integer c hc with hdigit | rfl
    · exact Text.isNumeric_of_isDigit c hdigit
    · rfl
  | float x =>
    rw [compactChars]
    exact x.isNumeric_of_mem_text
  | bool value => cases value <;> cases h
  | _ => cases h

/-- Numbers are told apart by their texts, and integers from doubles. -/
theorem eq_of_compactChars_eq (ha : a.opening = '0') (hb : b.opening = '0')
    (h : a.compactChars = b.compactChars) :
    a = b := by
  have hnumber : ∀ {c : Document}, c.opening = '0' → (∃ i, c = .int i) ∨ ∃ x, c = .float x := by
    intro c hc
    cases c with
    | int i => exact .inl ⟨i, rfl⟩
    | float x => exact .inr ⟨x, rfl⟩
    | bool value => cases value <;> cases hc
    | _ => cases hc
  rcases hnumber ha with ⟨i, rfl⟩ | ⟨x, rfl⟩ <;> rcases hnumber hb with ⟨j, rfl⟩ | ⟨y, rfl⟩ <;>
    rw [compactChars, compactChars] at h
  · rw [Text.integer_injective h]
  · exact absurd h (Text.integer_ne_text i y)
  · exact absurd h.symm (Text.integer_ne_text j x)
  · rw [Binary64.text_injective h]

theorem exists_opening (document : Document) :
    ∃ c rest, document.compactChars = c :: rest ∧ kindOf c = document.opening := by
  have hnumber : document.opening = '0' → document.compactChars ≠ [] →
      ∃ c rest, document.compactChars = c :: rest ∧ kindOf c = document.opening := by
    intro hopening hne
    obtain ⟨c, rest, hchars⟩ := List.exists_cons_of_ne_nil hne
    have hnumeric := isNumeric_of_opening hopening c (hchars ▸ List.mem_cons_self)
    exact ⟨c, rest, hchars, hopening ▸ if_pos hnumeric⟩
  cases document with
  | null => exact ⟨_, _, by rw [compactChars], rfl⟩
  | bool value => cases value <;> exact ⟨_, _, by rw [compactChars], rfl⟩
  | int i => exact hnumber rfl (by rw [compactChars]; exact Text.integer_ne_nil i)
  | float x =>
    refine hnumber rfl fun hnil => ?_
    rw [compactChars] at hnil
    simpa [hnil] using x.mem_text
  | string text => exact ⟨_, _, by rw [compactChars, Text.quoted, List.cons_append], rfl⟩
  | array elements => exact ⟨_, _, by rw [compactChars, List.cons_append], rfl⟩
  | object entries => exact ⟨_, _, by rw [compactChars, List.cons_append], rfl⟩

/-- No document begins as an array or object ends. -/
theorem compactChars_append_ne {close : Char} (hclose : close = ']' ∨ close = '\x7d') :
    a.compactChars ++ r ≠ close :: s := by
  intro h
  obtain ⟨c, rest, hchars, hkind⟩ := a.exists_opening
  rw [hchars, List.cons_append] at h
  obtain rfl := (List.cons.inj h).1
  rcases hclose with rfl | rfl <;> cases a <;> grind [opening, kindOf, Text.isNumeric]

theorem opening_eq (h : a.compactChars ++ r = b.compactChars ++ s) : a.opening = b.opening := by
  obtain ⟨c, rest, hchars, hkind⟩ := a.exists_opening
  obtain ⟨d, others, hchars', hkind'⟩ := b.exists_opening
  rw [hchars, hchars', List.cons_append, List.cons_append] at h
  rw [← hkind, ← hkind', (List.cons.inj h).1]

theorem number_append_inj (ha : a.opening = '0') (hr : Stops r) (hs : Stops s)
    (h : a.compactChars ++ r = b.compactChars ++ s) : a = b ∧ r = s := by
  have hb : b.opening = '0' := (opening_eq h).symm.trans ha
  have hstops : ∀ {rest}, Stops rest → ∀ c ∈ rest.head?, Text.isNumeric c = false := by
    intro rest hrest c hc
    rcases hrest c hc with rfl | rfl | rfl <;> rfl
  obtain ⟨hchars, hrest⟩ :=
    append_inj_of_all (isNumeric_of_opening ha) (isNumeric_of_opening hb) (hstops hr)
      (hstops hs) h
  exact ⟨eq_of_compactChars_eq ha hb hchars, hrest⟩

theorem compactElements_eq (elements : List Document) :
    compactElements elements = separated compactChars elements := by
  induction elements with
  | nil => rfl
  | cons element rest ih =>
    cases rest with
    | nil => rw [compactElements, separated, List.flatMap_nil, List.append_nil]
    | cons next rest =>
      rw [compactElements, ih]
      · rfl
      · exact List.cons_ne_nil _ _

theorem compactEntries_eq (entries : List (String × Document)) :
    compactEntries entries = separated (fun entry => Text.quoted entry.1 ++
      ':' :: entry.2.compactChars) entries := by
  induction entries with
  | nil => rfl
  | cons entry rest ih =>
    cases rest with
    | nil => rw [compactEntries, separated, List.flatMap_nil, List.append_nil]
    | cons next rest =>
      rw [compactEntries, ih]
      · simp only [separated, List.flatMap_cons, List.append_assoc, List.cons_append]
      · exact List.cons_ne_nil _ _

theorem selfDelimiting_entry {entry : String × Document} (h : SelfDelimiting compactChars entry.2) :
    SelfDelimiting (fun entry => Text.quoted entry.1 ++ ':' :: entry.2.compactChars) entry := by
  intro other r s hr hs heq
  dsimp only at heq
  rw [List.append_assoc, List.append_assoc, List.cons_append, List.cons_append] at heq
  obtain ⟨hkey, hrest⟩ := Text.quoted_append_inj heq
  obtain ⟨hvalue, hrest⟩ := h other.2 r s hr hs (List.cons.inj hrest).2
  exact ⟨Prod.ext hkey hvalue, hrest⟩

/-- The text of a document shows where it ends, and which document it is. -/
theorem selfDelimiting_compactChars (document : Document) :
    SelfDelimiting compactChars document := by
  induction document with
  | null =>
    intro b r s _ _ h
    have hopening := opening_eq h
    obtain rfl : b = .null := by cases b <;> grind [opening]
    exact ⟨rfl, List.append_cancel_left h⟩
  | bool value =>
    intro b r s _ _ h
    have hopening := opening_eq h
    obtain rfl : b = .bool value := by cases value <;> cases b <;> grind [opening]
    exact ⟨rfl, List.append_cancel_left h⟩
  | int i => exact fun b r s hr hs h => number_append_inj rfl hr hs h
  | float x => exact fun b r s hr hs h => number_append_inj rfl hr hs h
  | string text =>
    intro b r s _ _ h
    have hopening := opening_eq h
    obtain ⟨text', rfl⟩ : ∃ text, b = .string text := by cases b <;> grind [opening]
    rw [compactChars, compactChars] at h
    obtain ⟨rfl, rfl⟩ := Text.quoted_append_inj h
    exact ⟨rfl, rfl⟩
  | array elements ih =>
    intro b r s _ _ h
    have hopening := opening_eq h
    obtain ⟨elements', rfl⟩ : ∃ elements, b = .array elements := by cases b <;> grind [opening]
    rw [compactChars, compactChars, compactElements_eq, compactElements_eq] at h
    simp only [List.cons_append, List.append_assoc, List.cons.injEq, true_and, List.nil_append] at h
    obtain ⟨rfl, rfl⟩ :=
      separated_append_inj (.inl rfl) (fun b r s => compactChars_append_ne (.inl rfl)) ih h
    exact ⟨rfl, rfl⟩
  | object entries ih =>
    intro b r s _ _ h
    have hopening := opening_eq h
    obtain ⟨entries', rfl⟩ : ∃ entries, b = .object entries := by cases b <;> grind [opening]
    rw [compactChars, compactChars, compactEntries_eq, compactEntries_eq] at h
    simp only [List.cons_append, List.append_assoc, List.cons.injEq, true_and, List.nil_append] at h
    obtain ⟨rfl, rfl⟩ := separated_append_inj (.inr rfl) (by simp [Text.quoted])
      (fun entry hentry => selfDelimiting_entry (ih entry hentry)) h
    exact ⟨rfl, rfl⟩

theorem compact_injective : Function.Injective compact := by
  intro a b h
  have hchars := String.ofList_injective h
  exact (selfDelimiting_compactChars a b [] [] nofun nofun (by rw [hchars])).1

end Document

end DataSchema
