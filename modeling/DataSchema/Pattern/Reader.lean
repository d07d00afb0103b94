import DataSchema.Document.Token
import DataSchema.Pattern.Basic
import DataSchema.Text.Split

/-!
# Reading patterns

`Pattern.ofSource?` reads the text of a regular expression. The reader is a machine with a stack of
open groups; a second machine with a stack of open brackets reads character classes. Each step takes
at least one character, so the length of the text bounds the number of steps. A text that is no
regular expression has no pattern: an unbalanced bracket, a repetition of nothing, an unknown escape
or flag, a reference back, a look around. Nor has one whose pattern would be too large. Classes of
characters by property, written behind `\p` and `\P`, are not read.
-/

namespace DataSchema

namespace Pattern

/-- The settings of `(?…)`. -/
structure Flags where
  caseless : Bool
  dotMatchesNewline : Bool
  multiLine : Bool
  verbose : Bool
deriving DecidableEq

namespace Flags

def initial : Flags := ⟨false, false, false, false⟩

/-- The set of characters that are to be taken for the given ones. -/
def close (flags : Flags) (set : CharSet) : CharSet :=
  if flags.caseless then .sameLetters set else set

def set (flags : Flags) (flag : Char) (value : Bool) : Flags :=
  match flag with
  | 'i' => { flags with caseless := value }
  | 's' => { flags with dotMatchesNewline := value }
  | 'm' => { flags with multiLine := value }
  | 'x' => { flags with verbose := value }
  | _ => flags

/-- Greediness, line ends and the alphabet can be set as well, but what they say
makes no difference here. -/
def isFlag (c : Char) : Bool := ['i', 's', 'm', 'x', 'U', 'u', 'R'].contains c

end Flags

/-- Skips blanks, and comments up to the end of their line. -/
def skipCommented : Bool → List Char → List Char
  | _, [] => []
  | true, c :: rest => if c = '\n' then skipCommented false rest else skipCommented true rest
  | false, c :: rest =>
    if Text.isBlank c then skipCommented false rest
    else if c = '#' then skipCommented true rest
    else c :: rest

/-- In verbose text, skips blanks and comments. -/
def skipBlanks (flags : Flags) (text : List Char) : List Char :=
  if flags.verbose then skipCommented false text else text

/-! ### Escapes -/

/-- What an escape stands for. -/
inductive Escape where
  | char (c : Char)
  | set (set : CharSet)
  | assertion (assertion : Assertion)

def charOfHex? (digits : List Char) : Option Char := do
  let values ← digits.mapM Text.hexValue?
  let n := values.foldl (fun n v => 16 * n + v) 0
  if values.isEmpty then none
  else if n.isValidChar then some (Char.ofNat n) else none

/-- A hexadecimal escape behind its letter: a fixed number of digits, or
any number between braces. -/
def hexEscape? (flags : Flags) (count : Nat) (text : List Char) : Option (Char × List Char) :=
  match skipBlanks flags text with
  | '\x7b' :: rest => do
    let (digits, rest) ← Text.splitOnce? '\x7d' rest
    let c ← charOfHex? (if flags.verbose then digits.filter fun c => !Text.isBlank c else digits)
    return (c, rest)
  | text => do
    let digits := text.take count
    if digits.length < count then none
    else
      let c ← charOfHex? digits
      return (c, text.drop count)

def assertionOfName? : String → Option Assertion
  | "start" => some .wordStart
  | "end" => some .wordEnd
  | "start-half" => some .wordStartHalf
  | "end-half" => some .wordEndHalf
  | _ => none

/-- A word boundary, which a name between braces may narrow down. Braces that do not begin with a
letter or a hyphen are a repetition. -/
def wordBoundary? (text : List Char) : Option (Escape × List Char) :=
  match text with
  | '\x7b' :: c :: rest =>
    if c.isAlpha || c = '-' then do
      let (name, rest) ← Text.splitOnce? '\x7d' (c :: rest)
      let assertion ← assertionOfName? (String.ofList name)
      return (.assertion assertion, rest)
    else some (.assertion .wordBoundary, text)
  | _ => some (.assertion .wordBoundary, text)

/-- An escape behind its backslash. -/
def escape? (flags : Flags) : List Char → Option (Escape × List Char)
  | [] => none
  | c :: rest =>
    match c with
    | 'd' => some (.set .digit, rest)
    | 'D' => some (.set (.complement .digit), rest)
    | 's' => some (.set .blank, rest)
    | 'S' => some (.set (.complement .blank), rest)
    | 'w' => some (.set .word, rest)
    | 'W' => some (.set (.complement .word), rest)
    | 'x' => (hexEscape? flags 2 rest).map fun (c, rest) => (.char c, rest)
    | 'u' => (hexEscape? flags 4 rest).map fun (c, rest) => (.char c, rest)
    | 'U' => (hexEscape? flags 8 rest).map fun (c, rest) => (.char c, rest)
    | 'a' => some (.char '\x07', rest)
    | 'f' => some (.char '\x0c', rest)
    | 't' => some (.char '\t', rest)
    | 'n' => some (.char '\n', rest)
    | 'r' => some (.char '\r', rest)
    | 'v' => some (.char '\x0b', rest)
    | 'A' => some (.assertion .textStart, rest)
    | 'z' => some (.assertion .textEnd, rest)
    | 'b' => wordBoundary? rest
    | 'B' => some (.assertion .noWordBoundary, rest)
    | '<' => some (.assertion .wordStart, rest)
    | '>' => some (.assertion .wordEnd, rest)
    | c => if c.toNat < 128 && !c.isAlphanum then some (.char c, rest) else none

/-! ### Character classes -/

inductive SetOperation where
  | intersection | difference | symmetricDifference

namespace SetOperation

def apply (left right : CharSet) : SetOperation → CharSet
  | .intersection => .inter left right
  | .difference => .inter left (.complement right)
  | .symmetricDifference =>
    .union (.inter left (.complement right)) (.inter right (.complement left))

end SetOperation

/-- A bracket that is still open: what was read of the current operand, and the
operation that waits for it. -/
structure Bracket where
  negated : Bool
  operand : CharSet
  waiting : Option (CharSet × SetOperation)

namespace Bracket

def add (bracket : Bracket) (set : CharSet) : Bracket :=
  { bracket with operand := .union bracket.operand set }

/-- The value of the operations so far. -/
def settled (flags : Flags) (bracket : Bracket) : CharSet :=
  match bracket.waiting with
  | none => flags.close bracket.operand
  | some (left, operation) => operation.apply left (flags.close bracket.operand)

def operate (flags : Flags) (operation : SetOperation) (bracket : Bracket) : Bracket :=
  { bracket with operand := .nothing, waiting := some (bracket.settled flags, operation) }

def value (flags : Flags) (bracket : Bracket) : CharSet :=
  let set := flags.close (bracket.settled flags)
  if bracket.negated then .complement set else set

end Bracket

/-- Hyphens at the beginning of a class stand for themselves. -/
def leadingHyphens (flags : Flags) : Nat → CharSet → List Char → CharSet × List Char
  | 0, set, text => (set, text)
  | room + 1, set, text =>
    match text with
    | '-' :: rest =>
      leadingHyphens flags room (.union set (CharSet.single '-')) (skipBlanks flags rest)
    | text => (set, text)

/-- Opens a class behind its bracket: a negation, hyphens, and a closing bracket
that stands for itself. -/
def openBracket (flags : Flags) (text : List Char) : Bracket × List Char :=
  let (negated, text) := match skipBlanks flags text with
    | '^' :: rest => (true, skipBlanks flags rest)
    | text => (false, text)
  let (set, rest) := leadingHyphens flags text.length .nothing text
  match set, rest with
  | .nothing, ']' :: rest => (⟨negated, CharSet.single ']', none⟩, rest)
  | set, rest => (⟨negated, set, none⟩, rest)

/-- A class name such as `:alpha:]` behind its bracket. -/
def className? (flags : Flags) : List Char → Option (CharSet × List Char)
  | ':' :: text => do
    let (negated, text) := match text with
      | '^' :: rest => (true, rest)
      | text => (false, text)
    match ← Text.splitOnce? ':' text with
    | (name, ']' :: rest) =>
      let set := flags.close (← CharSet.ofClassName? (String.ofList name))
      return (if negated then .complement set else set, rest)
    | _ => none
  | _ => none

def classItem? (flags : Flags) : List Char → Option (Escape × List Char)
  | [] => none
  | '\\' :: rest => escape? flags rest
  | c :: rest => some (.char c, rest)

/-- An item of a class, or a range of characters. -/
def classRange? (flags : Flags) (text : List Char) : Option (CharSet × List Char) := do
  let (item, rest) ← classItem? flags text
  let rest := skipBlanks flags rest
  let single : Option (CharSet × List Char) := match item with
    | .char c => some (CharSet.single c, rest)
    | .set set => some (set, rest)
    | .assertion _ => none
  match rest with
  | '-' :: tail =>
    match skipBlanks flags tail with
    | ']' :: _ => single
    | '-' :: _ => single
    | tail => do
      let (last, rest) ← classItem? flags tail
      match item, last with
      | .char low, .char high =>
        if low ≤ high then some (.range low.toNat high.toNat, rest) else none
      | _, _ => none
  | _ => single

/-- Reads a class behind its opening bracket; `outer` holds the brackets around the current one. -/
def readClass (flags : Flags) :
    Nat → List Bracket → Bracket → List Char → Option (CharSet × List Char)
  | 0, _, _, _ => none
  | room + 1, outer, bracket, text =>
    match skipBlanks flags text with
    | [] => none
    | '[' :: rest =>
      match className? flags rest with
      | some (set, rest) => readClass flags room outer (bracket.add set) rest
      | none =>
        let (inner, rest) := openBracket flags rest
        readClass flags room (bracket :: outer) inner rest
    | ']' :: rest =>
      match outer with
      | [] => some (bracket.value flags, rest)
      | next :: outer => readClass flags room outer (next.add (bracket.value flags)) rest
    | '&' :: '&' :: rest => readClass flags room outer (bracket.operate flags .intersection) rest
    | '-' :: '-' :: rest => readClass flags room outer (bracket.operate flags .difference) rest
    | '~' :: '~' :: rest =>
      readClass flags room outer (bracket.operate flags .symmetricDifference) rest
    | text => do
      let (set, rest) ← classRange? flags text
      readClass flags room outer (bracket.add set) rest

/-! ### Groups and repetitions -/

/-- What a branch consists of. A setting of flags matches nothing and cannot be repeated. -/
inductive Item where
  | pattern (pattern : Pattern)
  | setting

/-- A group that is still open: finished branches and the items of the
current one, both backwards. -/
structure Group where
  outerFlags : Flags
  branches : List Pattern
  items : List Item

structure Machine where
  flags : Flags
  outer : List Group
  group : Group
  names : List String

namespace Group

def start (flags : Flags) : Group := ⟨flags, [], []⟩

/-- The items of the current branch one after the other. -/
def branch (group : Group) : Pattern :=
  group.items.foldl (fun rest item => match item with
    | .pattern p => match rest with
      | .empty => p
      | rest => .sequence p rest
    | .setting => rest) .empty

def value (group : Group) : Pattern :=
  group.branches.foldl (fun later branch => .either branch later) group.branch

end Group

namespace Machine

def push (machine : Machine) (item : Item) : Machine :=
  { machine with group := { machine.group with items := item :: machine.group.items } }

def pushSet (machine : Machine) (set : CharSet) : Machine := machine.push (.pattern (.oneOf set))

def pushAssertion (machine : Machine) (a : Assertion) : Machine :=
  machine.push (.pattern (.assertion a))

/-- Repeats the last item of the branch. -/
def repeatLast? (min : Nat) (max : Option Nat) (machine : Machine) : Option Machine :=
  match machine.group.items with
  | .pattern p :: items =>
    some { machine with
      group := { machine.group with items := .pattern (.repeated min max p) :: items } }
  | _ => none

def nextBranch (machine : Machine) : Machine :=
  { machine with
    group := { machine.group with
      branches := machine.group.branch :: machine.group.branches, items := [] } }

def openGroup (flags : Flags) (machine : Machine) : Machine :=
  { machine with
    flags := flags, outer := machine.group :: machine.outer, group := Group.start machine.flags }

def closeGroup? (machine : Machine) : Option Machine :=
  match machine.outer with
  | [] => none
  | outer :: rest =>
    let closed : Machine :=
      { machine with flags := machine.group.outerFlags, outer := rest, group := outer }
    some (closed.push (.pattern machine.group.value))

end Machine

/-- A lazy mark behind a repetition, which makes no difference to what matches. -/
def skipLazy : List Char → List Char
  | '?' :: rest => rest
  | text => text

/-- Counts fit into 32 bits. -/
def countBound : Nat := 0x100000000

/-- A decimal count, which blanks may surround. -/
def count? (flags : Flags) (text : List Char) : Option Nat × List Char :=
  let text := text.dropWhile Text.isBlank
  let digits := text.takeWhile Char.isDigit
  let rest := skipBlanks flags ((text.dropWhile Char.isDigit).dropWhile Text.isBlank)
  let value := Text.naturalValue digits
  (if digits.isEmpty || value ≥ countBound then none else some value, rest)

/-- The bounds of a counted repetition behind its opening brace. -/
def bounds? (flags : Flags) (text : List Char) : Option ((Nat × Option Nat) × List Char) := do
  let (min, rest) := count? flags (skipBlanks flags text)
  let min ← min
  match rest with
  | '\x7d' :: rest => return ((min, some min), rest)
  | ',' :: rest =>
    match skipBlanks flags rest with
    | '\x7d' :: rest => return ((min, none), rest)
    | rest =>
      let (max, rest) := count? flags rest
      let max ← max
      match rest with
      | '\x7d' :: rest => if min ≤ max then return ((min, some max), rest) else none
      | _ => none
  | _ => none

/-- Whether a character may stand in the name of a group. -/
def isNameChar (first : Bool) (c : Char) : Bool :=
  let letter := c = '_' || (Text.isWord c && !Text.isDecimal c)
  if first then letter else letter || Text.isDecimal c || c = '.' || c = '[' || c = ']'

def groupName? (text : List Char) : Option (String × List Char) := do
  let (name, rest) ← Text.splitOnce? '>' text
  match name with
  | [] => none
  | c :: others =>
    if isNameChar true c && others.all (isNameChar false) then
      some (String.ofList name, rest) else none

/-- The flags of a group header: letters at most once each, with at most one hyphen in
front of those to be taken back. The result tells whether a colon (and so a group) or a
closing parenthesis follows. -/
def readFlags : List Char → Bool → List Char → Flags → Option (Flags × Bool × List Char)
  | _, _, [], _ => none
  | seen, value, c :: rest, flags =>
    if c = ':' ∨ c = ')' then
      if seen.head? = some '-' then none
      else if c = ')' ∧ seen.isEmpty then none
      else some (flags, c = ':', rest)
    else if seen.contains c then none
    else if c = '-' then readFlags (c :: seen) false rest flags
    else if Flags.isFlag c then readFlags (c :: seen) value rest (flags.set c value)
    else none

/-- Reads what follows an opening parenthesis. -/
def readGroup? (machine : Machine) (text : List Char) : Option (Machine × List Char) :=
  let named (text : List Char) : Option (Machine × List Char) := do
    let (name, rest) ← groupName? text
    if machine.names.contains name then none
    else return ({ machine.openGroup machine.flags with names := name :: machine.names }, rest)
  match skipBlanks machine.flags text with
  | '?' :: '=' :: _ => none
  | '?' :: '!' :: _ => none
  | '?' :: '<' :: '=' :: _ => none
  | '?' :: '<' :: '!' :: _ => none
  | '?' :: 'P' :: '<' :: rest => named rest
  | '?' :: '<' :: rest => named rest
  | '?' :: rest => do
    let (flags, opens, rest) ← readFlags [] true rest machine.flags
    if opens then return (machine.openGroup flags, rest)
    else return ({ machine.push .setting with flags := flags }, rest)
  | rest => some (machine.openGroup machine.flags, rest)

/-- One step of the machine on a text that does not begin with a skipped blank. -/
def step? (machine : Machine) : List Char → Option (Machine × List Char)
  | [] => none
  | c :: rest =>
    let flags := machine.flags
    match c with
    | '(' => readGroup? machine rest
    | ')' => (machine.closeGroup?).map (·, rest)
    | '|' => some (machine.nextBranch, rest)
    | '[' => do
      let (bracket, inner) := openBracket flags rest
      let (set, rest) ← readClass flags (rest.length + 1) [] bracket inner
      return (machine.pushSet set, rest)
    | '*' => do return (← machine.repeatLast? 0 none, skipLazy rest)
    | '+' => do return (← machine.repeatLast? 1 none, skipLazy rest)
    | '?' => do return (← machine.repeatLast? 0 (some 1), skipLazy rest)
    | '\x7b' => do
      let ((min, max), rest) ← bounds? flags rest
      return (← machine.repeatLast? min max, skipLazy (skipBlanks flags rest))
    | '.' =>
      some (machine.pushSet (if flags.dotMatchesNewline then .everything else .complement .newline),
        rest)
    | '^' => some (machine.pushAssertion (if flags.multiLine then .lineStart else .textStart), rest)
    | '$' => some (machine.pushAssertion (if flags.multiLine then .lineEnd else .textEnd), rest)
    | '\\' => do
      let (escape, rest) ← escape? flags rest
      match escape with
      | .char c => return (machine.pushSet (flags.close (.single c)), rest)
      | .set set => return (machine.pushSet set, rest)
      | .assertion a => return (machine.pushAssertion a, rest)
    | c => some (machine.pushSet (flags.close (.single c)), rest)

/-- Runs the machine to the end of the text. -/
def run : Nat → Machine → List Char → Option Pattern
  | 0, _, _ => none
  | room + 1, machine, text =>
    match skipBlanks machine.flags text with
    | [] => if machine.outer.isEmpty then some machine.group.value else none
    | text => do
      let (machine, rest) ← step? machine text
      run room machine rest

/-- How large a pattern may be with its repetitions written out. -/
def maxSize : Nat := 327680

/-- The pattern that a text denotes. -/
def ofSource? (source : String) : Option Pattern :=
  let text := source.toList
  (run (text.length + 1) ⟨.initial, [], .start .initial, []⟩ text).filter (·.size ≤ maxSize)

end Pattern

end DataSchema
