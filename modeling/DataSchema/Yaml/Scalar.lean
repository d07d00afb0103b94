import DataSchema.Text.Numeral

/-!
# Scanning YAML scalars

A scanner starts at a place in a text and gives the text of one scalar and the place behind
it: plain scalars, scalars between quotes, and block scalars behind `|` or `>`. A scalar may
go over several lines; a single line break between two parts of it is a blank, and of
several the first one is dropped.
-/

namespace DataSchema.Yaml

/-- A place in a text: what is still to come, and where it stands. -/
structure Place where
  rest : List Char
  line : Nat
  column : Nat

def isBreak (c : Char) : Bool := c = '\n' || c = '\u2028' || c = '\u2029'

def isSpace (c : Char) : Bool := c = ' ' || c = '\t'

/-- Whether a text is at its end, at a line break or at a blank. -/
def atBlank : List Char → Bool
  | [] => true
  | c :: _ => isSpace c || isBreak c

/-- Line breaks in one spelling; the separators of lines and paragraphs stay as they are. -/
def unifyBreaks : List Char → List Char
  | '\r' :: '\n' :: rest => '\n' :: unifyBreaks rest
  | '\r' :: rest => '\n' :: unifyBreaks rest
  | '\u0085' :: rest => '\n' :: unifyBreaks rest
  | c :: rest => c :: unifyBreaks rest
  | [] => []

/-- Whether a character may stand in a text at all. -/
def isAllowed (c : Char) : Bool :=
  let n := c.toNat
  n = 0x9 || n = 0xa || n = 0xd || (0x20 ≤ n && n ≤ 0x7e) || n = 0x85 ||
    (0xa0 ≤ n && n ≤ 0xfffd && n != 0xfeff) || 0x10000 ≤ n

/-- Whether a line begins with one of the marks `---` and `...` that bound documents. -/
def atMark : List Char → Bool
  | '-' :: '-' :: '-' :: rest => atBlank rest
  | '.' :: '.' :: '.' :: rest => atBlank rest
  | _ => false

/-- What stands between two parts of a scalar: blanks on one line, or line breaks. -/
inductive Between where
  | blanks (text : List Char)
  | lines (first : Option Char) (more : List Char)

namespace Between

def nothing : Between := .blanks []

def isNothing : Between → Bool
  | .blanks [] => true
  | _ => false

def isLines : Between → Bool
  | .lines .. => true
  | .blanks _ => false

def addBlank (c : Char) : Between → Between
  | .blanks text => .blanks (text ++ [c])
  | .lines first more => .lines first more

def addBreak (c : Char) : Between → Between
  | .blanks _ => .lines (some c) []
  | .lines first more => .lines first (more ++ [c])

/-- The text that it stands for. -/
def text : Between → List Char
  | .blanks text => text
  | .lines none more => more
  | .lines (some first) more =>
    if first = '\n' then if more.isEmpty then [' '] else more
    else first :: more

end Between

/-! ### Plain scalars -/

def isFlowMark (c : Char) : Bool := c = ',' || c = '[' || c = ']' || c = '\x7b' || c = '\x7d'

/-- Whether a plain scalar may begin with this text. -/
def startsPlain (flow : Bool) : List Char → Bool
  | [] => false
  | '-' :: rest => !(atBlank rest)
  | '?' :: rest => !flow && !(atBlank rest)
  | ':' :: rest => !flow && !(atBlank rest)
  | c :: _ => !(isSpace c || isBreak c || isFlowMark c || "#&*!|>'\"%@`".toList.contains c)

/-- The rest of a plain scalar, read into `read` (in reverse). In block context a line that starts
left of `floor` ends it. -/
def scanPlain (flow : Bool) (floor : Nat) (read : List Char) (between : Between) (ended : Place) :
    List Char → Nat → Nat → Option (List Char × Place)
  | [], _, _ => some (read.reverse, ended)
  | c :: rest, line, column =>
    if isBreak c then scanPlain flow floor read (between.addBreak c) ended rest (line + 1) 0
    else if isSpace c then
      if c = '\t' && between.isLines && column < floor then none
      else scanPlain flow floor read (between.addBlank c) ended rest line (column + 1)
    else
      let stops := !between.isNothing
        && (c = '#' || (!flow && between.isLines && column < floor) ||
          (column = 0 && atMark (c :: rest)))
      if stops then some (read.reverse, ended)
      else if flow && c = ':' && (rest.head?.any fun d => isFlowMark d || d = '?') then none
      else if (c = ':' && atBlank rest) || (flow && isFlowMark c) then some (read.reverse, ended)
      else scanPlain flow floor (c :: (between.text.reverse ++ read)) .nothing ⟨rest, line,
        column + 1⟩ rest line (column + 1)

/-! ### Scalars between quotes -/

/-- The characters behind a backslash that stand for one character. -/
def escapes : List (Char × Char) := [
  ('0', '\x00'), ('a', '\x07'), ('b', '\x08'), ('t', '\t'), ('\t', '\t'), ('n', '\n'),
  ('v', '\x0b'), ('f', '\x0c'), ('r', '\r'),
  ('e', '\x1b'), (' ', ' '), ('"', '"'), ('/', '/'), ('\\', '\\'), ('N', '\u0085'), ('_', '\u00a0'),
  ('L', '\u2028'), ('P', '\u2029')]

/-- How many hexadecimal digits follow a character behind a backslash. -/
def codeWidth? (c : Char) : Option Nat :=
  if c = 'x' then some 2 else if c = 'u' then some 4 else if c = 'U' then some 8 else none

/-- What the rest of a scalar between double quotes goes on with. -/
inductive QuoteState where
  | text
  /-- Behind a backslash. -/
  | escape
  /-- Within a code of which `missing` digits are to come; the others are kept in reverse. -/
  | code (missing : Nat) (digits : List Char)

/-- The rest of a scalar between double quotes. -/
def scanDouble (read : List Char) (between : Between) (state : QuoteState) :
    List Char → Nat → Nat → Option (List Char × Place)
  | [], _, _ => none
  | c :: rest, line, column =>
    match state with
    | .escape =>
      if isBreak c then scanDouble read (.lines none []) .text rest (line + 1) 0
      else match escapes.lookup c, codeWidth? c with
        | some d, _ => scanDouble (d :: read) .nothing .text rest line (column + 1)
        | none, some width => scanDouble read .nothing (.code width []) rest line (column + 1)
        | none, none => none
    | .code missing digits =>
      if missing = 1 then
        match Text.charOfCode? (c :: digits).reverse with
        | some d => scanDouble (d :: read) .nothing .text rest line (column + 1)
        | none => none
      else scanDouble read .nothing (.code (missing - 1) (c :: digits)) rest line (column + 1)
    | .text =>
      if column = 0 && atMark (c :: rest) then none
      else if isBreak c then scanDouble read (between.addBreak c) .text rest (line + 1) 0
      else if isSpace c then scanDouble read (between.addBlank c) .text rest line (column + 1)
      else
        let read := between.text.reverse ++ read
        if c = '"' then some (read.reverse, ⟨rest, line, column + 1⟩)
        else if c = '\\' then scanDouble read .nothing .escape rest line (column + 1)
        else scanDouble (c :: read) .nothing .text rest line (column + 1)

/-- The rest of a scalar between single quotes, where a quote is written twice; `quote` says
that one was just read. -/
def scanSingle (read : List Char) (between : Between) (quote : Bool) :
    List Char → Nat → Nat → Option (List Char × Place)
  | [], line, column => if quote then some (read.reverse, ⟨[], line, column⟩) else none
  | c :: rest, line, column =>
    if quote then
      if c = '\'' then scanSingle ('\'' :: read) .nothing false rest line (column + 1)
      else some (read.reverse, ⟨c :: rest, line, column⟩)
    else if column = 0 && atMark (c :: rest) then none
    else if isBreak c then scanSingle read (between.addBreak c) false rest (line + 1) 0
    else if isSpace c then scanSingle read (between.addBlank c) false rest line (column + 1)
    else
      let read := between.text.reverse ++ read
      if c = '\'' then scanSingle read .nothing true rest line (column + 1)
      else scanSingle (c :: read) .nothing false rest line (column + 1)

/-! ### Block scalars -/

/-- What happens to the line breaks at the end of a block scalar. -/
inductive Chomping where
  | strip | clip | keep
deriving DecidableEq

structure BlockHeader where
  chomping : Chomping
  /-- By how much the content is indented, if it is said. -/
  indent : Option Nat

def chompingOf? (c : Char) : Option Chomping :=
  if c = '-' then some .strip else if c = '+' then some .keep else none

/-- The width that a digit behind `|` gives; zero is no width. -/
def widthOf? (c : Char) : Option Nat :=
  if c.isDigit && c != '0' then some (Text.digitValue c) else none

/-- The marks behind `|` and `>`, in either order, and the number of characters they take. -/
def blockHeader : List Char → BlockHeader × Nat
  | c :: d :: _ =>
    match chompingOf? c, widthOf? d, widthOf? c, chompingOf? d with
    | some chomping, some width, _, _ => (⟨chomping, some width⟩, 2)
    | some chomping, none, _, _ => (⟨chomping, none⟩, 1)
    | none, _, some width, some chomping => (⟨chomping, some width⟩, 2)
    | none, _, some width, none => (⟨.clip, some width⟩, 1)
    | none, _, none, _ => (⟨.clip, none⟩, 0)
  | [c] =>
    match chompingOf? c, widthOf? c with
    | some chomping, _ => (⟨chomping, none⟩, 1)
    | none, some width => (⟨.clip, some width⟩, 1)
    | none, none => (⟨.clip, none⟩, 0)
  | [] => (⟨.clip, none⟩, 0)

/-- Goes to the first content of a block scalar's next line, over empty lines and indentation up to
`indent`. Gives the widest indentation, the line breaks passed and the place. -/
def scanIndent (indent : Option Nat) (widest : Nat) (breaks : List Char) :
    List Char → Nat → Nat → Option (Nat × List Char × Place)
  | [], line, column => some (max widest column, breaks, ⟨[], line, column⟩)
  | c :: rest, line, column =>
    let inside := indent.all (column < ·)
    if c = ' ' && inside then scanIndent indent widest breaks rest line (column + 1)
    else if c = '\t' && inside then none
    else if isBreak c then scanIndent indent (max widest column) (breaks ++ [c]) rest (line + 1) 0
    else some (max widest column, breaks, ⟨c :: rest, line, column⟩)

/-- A block scalar while its lines are read: the text so far (in reverse), the break behind its last
line, the breaks of empty lines after it, and whether that line began with a blank. -/
structure BlockText where
  read : List Char
  lastBreak : List Char
  emptyLines : List Char
  indented : Bool

namespace BlockText

def start (emptyLines : List Char) : BlockText := ⟨[], [], emptyLines, false⟩

/-- The text with the breaks that separate it from the next line: a folded line that is not
indented goes on after a blank. -/
def joined (text : BlockText) (literal indented : Bool) : List Char :=
  let folds := !literal && text.lastBreak.head? = some '\n' && !text.indented && !indented
  let read := if folds then (if text.emptyLines.isEmpty then ' ' :: text.read else text.read)
    else text.lastBreak.reverse ++ text.read
  text.emptyLines.reverse ++ read

def finished (text : BlockText) (chomping : Chomping) : List Char :=
  let lastBreak := if chomping = .strip then [] else text.lastBreak
  let emptyLines := if chomping = .keep then text.emptyLines else []
  text.read.reverse ++ lastBreak ++ emptyLines

end BlockText

/-- Reads lines indented by exactly `indent`. Every line takes at least one character, so `room`
lines suffice for a text of that length. -/
def scanLines (literal : Bool) (indent : Nat) : Nat → BlockText → Place → Option (BlockText × Place)
  | 0, text, place => some (text, place)
  | room + 1, text, place =>
    if place.column != indent || place.rest.isEmpty then some (text, place)
    else do
      let indented := atBlank place.rest
      let content := place.rest.takeWhile fun c => !isBreak c
      let rest := place.rest.dropWhile fun c => !isBreak c
      let read := content.reverse ++ text.joined literal indented
      match rest with
      | [] => return (⟨read, [], [], indented⟩, ⟨[], place.line, place.column + content.length⟩)
      | c :: rest => do
        let (_, emptyLines, next) ← scanIndent (some indent) 0 [] rest (place.line + 1) 0
        scanLines literal indent room ⟨read, [c], emptyLines, indented⟩ next

/-- A block scalar from behind its `|` or `>`; its lines are indented at least by `floor`. -/
def scanBlock (literal : Bool) (floor : Nat) (place : Place) : Option (List Char × Place) := do
  let (header, taken) := blockHeader place.rest
  let afterBlanks := (place.rest.drop taken).dropWhile isSpace
  let lineEnd := match afterBlanks with
    | '#' :: comment => comment.dropWhile fun c => !isBreak c
    | text => text
  let body ← match lineEnd with
    | [] => some []
    | c :: rest => if isBreak c then some rest else none
  let given := header.indent.map fun width => if floor = 0 then width else floor - 1 + width
  let (widest, emptyLines, first) ← scanIndent given 0 [] body (place.line + 1) 0
  let indent := given.getD (max (max widest floor) 1)
  let (text, next) ← scanLines literal indent (body.length + 1) (BlockText.start emptyLines) first
  return (text.finished header.chomping, next)

end DataSchema.Yaml
