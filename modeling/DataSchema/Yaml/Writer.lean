import DataSchema.Number.Shortest
import DataSchema.Text.Split
import DataSchema.Yaml.Plain
import DataSchema.Yaml.Scalar

/-!
# Writing YAML

A document is written in block style as a list of lines, and a collection puts its lines below a key
or behind a dash. The dashes of a sequence stand below its key, entries are indented by two blanks,
and empty collections are `[]` and `\x7b\x7d`. A text is plain when it reads back as itself, else it
is quoted; a text of several lines becomes a block scalar.
-/

namespace DataSchema.Yaml

/-- How a text is written. -/
inductive Style where
  | plain | single | double | literal
deriving DecidableEq

/-- Whether a character may be written as it is. -/
def isWritable (c : Char) : Bool :=
  let n := c.toNat
  n = 0xa || (0x20 ≤ n && n ≤ 0x7e) || (0xa0 ≤ n && n ≤ 0xfffd && n != 0xfeff)

/-- Whether a plain scalar would be cut or mistaken at one of its characters; `blank` says that a
blank stands before the text. -/
def breaksPlain (blank : Bool) : List Char → Bool
  | [] => false
  | ':' :: rest => atBlank rest || breaksPlain false rest
  | '#' :: rest => blank || breaksPlain false rest
  | c :: rest => breaksPlain (isSpace c || isBreak c) rest

/-- Whether a text has two characters in a row of which the first and the second
fulfil these conditions. -/
def hasPair (first second : Char → Bool) : List Char → Bool
  | a :: b :: rest => (first a && second b) || hasPair first second (b :: rest)
  | _ => false

def beginsAndEnds (bad : Char → Bool) (text : List Char) : Bool :=
  text.head?.any bad || text.getLast?.any bad

/-- Whether a text may be written without quotes. -/
def allowsPlain (text : List Char) : Bool :=
  isPlainText text && startsPlain false text &&
    !(text.take 3 = ['-', '-', '-'] || text.take 3 = ['.', '.', '.'])
    && text.all isWritable && !(text.any isBreak) && !(beginsAndEnds (· = ' ') text) &&
      !(breaksPlain true text)

/-- Whether a text may be written between single quotes. -/
def allowsSingle (text : List Char) : Bool :=
  text.all isWritable && !(hasPair (· = ' ') isBreak text) && !(hasPair isBreak (· = ' ') text)

/-- Whether a text may be written as a block scalar. -/
def allowsLiteral (text : List Char) : Bool :=
  text.all isWritable && !(hasPair (· = ' ') isBreak text) && text.getLast? != some ' '

def styleOf (text : List Char) : Style :=
  if text.contains '\n' then if allowsLiteral text then .literal else .double
  else if allowsPlain text then .plain
  else if allowsSingle text then .single
  else .double

/-- A number in upper-case hexadecimal digits, filled with zeros. -/
def paddedHex (width n : Nat) : List Char :=
  let digits := (Nat.toDigits 16 n).map Char.toUpper
  List.replicate (width - digits.length) '0' ++ digits

/-- The names that characters have behind a backslash. -/
def escapeNames : List (Char × Char) := [
  ('\x00', '0'), ('\x07', 'a'), ('\x08', 'b'), ('\t', 't'), ('\n', 'n'), ('\x0b', 'v'),
  ('\x0c', 'f'), ('\r', 'r'), ('\x1b', 'e'),
  ('"', '"'), ('\\', '\\'), ('\u0085', 'N'), ('\u00a0', '_'), ('\u2028', 'L'), ('\u2029', 'P')]

def doubleChar (c : Char) : List Char :=
  if isWritable c && !(isBreak c) && c != '"' && c != '\\' then [c]
  else match escapeNames.lookup c with
    | some name => ['\\', name]
    | none =>
      if c.toNat ≤ 0xff then '\\' :: 'x' :: paddedHex 2 c.toNat
      else if c.toNat ≤ 0xffff then '\\' :: 'u' :: paddedHex 4 c.toNat
      else '\\' :: 'U' :: paddedHex 8 c.toNat

def singleChar (c : Char) : List Char := if c = '\'' then ['\'', '\''] else [c]

/-- The marks behind `|`: the indentation when the text begins with a blank, and what to do with the
line breaks at its end. -/
def literalMarks (text : List Char) : List Char :=
  let indent := if !text.isEmpty && atBlank text then ['2'] else []
  let chomping := match text.reverse with
    | last :: before =>
      if !(isBreak last) then ['-']
      else if before.head?.all isBreak then ['+']
      else []
    | [] => ['-']
  indent ++ chomping

/-- The lines of a text; a line break at its end belongs to the last line. -/
def linesOf (text : List Char) : List (List Char) :=
  let lines := Text.pieces '\n' text
  if lines.getLast? = some [] then lines.dropLast else lines

/-- Indents a line unless it is empty. -/
def indented (line : List Char) : List Char := if line.isEmpty then [] else ' ' :: ' ' :: line

/-- The lines of a text: the first stands behind its key or dash, the
others are indented below it. -/
def textLines (text : List Char) : List (List Char) :=
  match styleOf text with
  | .plain => [text]
  | .single => ['\'' :: text.flatMap singleChar ++ ['\'']]
  | .double => ['"' :: text.flatMap doubleChar ++ ['"']]
  | .literal => ('|' :: literalMarks text) :: linesOf text

/-- How many bytes a key on the line of its value may have. -/
def maxShortKey : Nat := 128

/-- Whether a key stands on the line of its value. -/
def isShortKey (key : List Char) : Bool :=
  !(key.any isBreak) && (String.ofList key).utf8ByteSize ≤ maxShortKey

/-- Puts a mark of two characters before lines and indents all but the first. -/
def marked (mark : List Char) : List (List Char) → List (List Char)
  | [] => []
  | line :: lines => (mark ++ line) :: lines.map indented

/-- Puts the lines of a value behind a key. -/
def keyed (key : List Char) (value : Document) (lines : List (List Char)) : List (List Char) :=
  if isShortKey key then
    let name := (textLines key).flatten
    match value with
    | .array (_ :: _) => (name ++ [':']) :: lines
    | .object (_ :: _) => (name ++ [':']) :: lines.map indented
    | _ => marked (name ++ [':', ' ']) lines
  else marked ['?', ' '] (textLines key) ++ marked [':', ' '] lines

mutual

/-- The lines of a document in block style. The exponent of a float has no plus sign. -/
def lines : Document → List (List Char)
  | .null => ["null".toList]
  | .bool b => [(if b then "true" else "false").toList]
  | .int i => [(toString i).toList]
  | .float x => [x.text.filter (· != '+')]
  | .string text => textLines text.toList
  | .array [] => [['[', ']']]
  | .array (element :: rest) => marked ['-', ' '] (lines element) ++ elementLines rest
  | .object [] => [['\x7b', '\x7d']]
  | .object ((key, value) :: rest) => keyed key.toList value (lines value) ++ entryLines rest

def elementLines : List Document → List (List Char)
  | [] => []
  | element :: rest => marked ['-', ' '] (lines element) ++ elementLines rest

def entryLines : List (String × Document) → List (List Char)
  | [] => []
  | (key, value) :: rest => keyed key.toList value (lines value) ++ entryLines rest

end

end DataSchema.Yaml

namespace DataSchema

/-- The document as YAML text, every line with its break. The lines of a text that is a whole
document are indented too. -/
def Document.yaml (document : Document) : String :=
  let lines := match document with
    | .string text => Yaml.marked [] (Yaml.textLines text.toList)
    | document => Yaml.lines document
  String.ofList (lines.flatMap fun line => line ++ ['\n'])

end DataSchema
