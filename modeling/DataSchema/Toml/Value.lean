import DataSchema.Document.Basic
import DataSchema.Text.Numeral
import DataSchema.Text.Split

/-!
# TOML values

Keys, texts, numbers, booleans, arrays and inline tables of TOML. Each function reads one of them
from the beginning of a text and gives it with the rest of the text. An inline table is an object.
Lines end with `\n`, which `Toml.ofText?` sees to. Dates and times are not read.
-/

namespace DataSchema.Toml

def isSpace (c : Char) : Bool := c = ' ' || c = '\t'

/-- Whether a character may stand in a comment or in a text. -/
def isAllowed (c : Char) : Bool := c = '\t' || (0x20 ≤ c.toNat && c.toNat != 0x7f)

def isBareKey (c : Char) : Bool := c.isAlphanum || c = '_' || c = '-'

def skipSpace (text : List Char) : List Char := text.dropWhile isSpace

/-- Goes over blanks, line breaks and comments. -/
def skipLines (comment : Bool) : List Char → Option (List Char)
  | [] => some []
  | c :: rest =>
    if c = '\n' then skipLines false rest
    else if comment then if isAllowed c then skipLines true rest else none
    else if isSpace c then skipLines false rest
    else if c = '#' then skipLines true rest
    else some (c :: rest)

/-! ### Texts -/

/-- The characters behind a backslash that stand for one character. -/
def escapes : List (Char × Char) :=
  [('b', '\x08'), ('t', '\t'), ('n', '\n'), ('f', '\x0c'), ('r', '\r'), ('"', '"'), ('\\', '\\')]

/-- What the rest of a text between double quotes goes on with. -/
inductive TextState where
  | text
  /-- Behind a backslash. -/
  | escape
  /-- Blanks behind a backslash that are left out; `broken` says that their
  line has ended, as it must. -/
  | blanks (broken : Bool)
  /-- Within a code of which `missing` digits are to come; the others are kept in reverse. -/
  | code (missing : Nat) (digits : List Char)

/-- What is behind the end of a text between triple quotes: up to two quotes before the closing
ones belong to the text. -/
def closing? (quote : Char) : List Char → Option (List Char × List Char)
  | a :: b :: c :: d :: e :: rest =>
    if a = quote && b = quote && c = quote then
      if d = quote then if e = quote then some ([quote, quote], rest) else some ([quote], e :: rest)
      else some ([], d :: e :: rest)
    else none
  | [a, b, c, d] =>
    if a = quote && b = quote && c = quote then if d = quote then some ([quote], [])
    else some ([], [d]) else none
  | [a, b, c] => if a = quote && b = quote && c = quote then some ([], []) else none
  | _ => none

/-- The rest of a text between double quotes, on one line or, between triple quotes, on several. -/
def scanBasic (multiline : Bool) (read : List Char) (state : TextState) :
    List Char → Option (List Char × List Char)
  | [] => none
  | c :: rest =>
    match state with
    | .escape =>
      if multiline && (isSpace c || c = '\n') then
        scanBasic multiline read (.blanks (c = '\n')) rest
      else match escapes.lookup c with
        | some d => scanBasic multiline (d :: read) .text rest
        | none =>
          if c = 'u' then scanBasic multiline read (.code 4 []) rest
          else if c = 'U' then scanBasic multiline read (.code 8 []) rest
          else none
    | .code missing digits =>
      if missing = 1 then
        match Text.charOfCode? (c :: digits).reverse with
        | some d => scanBasic multiline (d :: read) .text rest
        | none => none
      else scanBasic multiline read (.code (missing - 1) (c :: digits)) rest
    | state =>
      let skipping := match state with
        | .blanks broken => some broken
        | _ => none
      if skipping.isSome && (isSpace c || c = '\n') then
        scanBasic multiline read (.blanks (skipping = some true || c = '\n')) rest
      else if skipping = some false then none
      else if c = '\\' then scanBasic multiline read .escape rest
      else if c = '"' then
        if multiline then
          match closing? '"' (c :: rest) with
          | some (quotes, after) => some (read.reverse ++ quotes, after)
          | none => scanBasic multiline (c :: read) .text rest
        else some (read.reverse, rest)
      else if isAllowed c || (multiline && c = '\n') then scanBasic multiline (c :: read) .text rest
      else none

/-- The rest of a text between single quotes, where a backslash means nothing. -/
def scanLiteral (multiline : Bool) (read : List Char) : List Char → Option (List Char × List Char)
  | [] => none
  | c :: rest =>
    if c = '\'' then
      if multiline then
        match closing? '\'' (c :: rest) with
        | some (quotes, after) => some (read.reverse ++ quotes, after)
        | none => scanLiteral multiline (c :: read) rest
      else some (read.reverse, rest)
    else if isAllowed c || (multiline && c = '\n') then scanLiteral multiline (c :: read) rest
    else none

/-- A text between quotes; a line break right behind triple quotes is left out. -/
def scanText : List Char → Option (List Char × List Char)
  | '"' :: '"' :: '"' :: '\n' :: rest => scanBasic true [] .text rest
  | '"' :: '"' :: '"' :: rest => scanBasic true [] .text rest
  | '"' :: rest => scanBasic false [] .text rest
  | '\'' :: '\'' :: '\'' :: '\n' :: rest => scanLiteral true [] rest
  | '\'' :: '\'' :: '\'' :: rest => scanLiteral true [] rest
  | '\'' :: rest => scanLiteral false [] rest
  | _ => none

/-! ### Keys -/

/-- A bare or quoted key. -/
def scanKey (text : List Char) : Option (String × List Char) :=
  match text with
  | '"' :: rest => (scanBasic false [] .text rest).map fun (key, rest) => (String.ofList key, rest)
  | '\'' :: rest => (scanLiteral false [] rest).map fun (key, rest) => (String.ofList key, rest)
  | text =>
    let key := text.takeWhile isBareKey
    if key.isEmpty then none else some (String.ofList key, text.dropWhile isBareKey)

/-- Keys with points between them, and the text behind the blanks that follow. Every key takes a
character, so `room` keys suffice for a text of that length. -/
def scanPath : Nat → List Char → Option (List String × List Char)
  | 0, _ => none
  | room + 1, text => do
    let (key, rest) ← scanKey (skipSpace text)
    match skipSpace rest with
    | '.' :: rest => do
      let (path, rest) ← scanPath room rest
      return (key :: path, rest)
    | rest => return ([key], rest)

/-! ### Numbers -/

/-- Digits of a base in which single underscores stand between digits; gives
them without underscores. -/
def digitsOf? (isDigit : Char → Bool) (text : List Char) : Option (List Char) :=
  let runs := Text.pieces '_' text
  if runs.all (fun run => !run.isEmpty && run.all isDigit) then some runs.flatten else none

def inBase? (base : Nat) (text : List Char) : Option Int := do
  let digits ← digitsOf? (fun c => (Text.hexValue? c).any (· < base)) text
  return digits.foldl (fun value c => base * value + ((Text.hexValue? c).getD 0 : Int)) 0

/-- A decimal integer without superfluous zeros. -/
def decimal? (text : List Char) : Option Int := do
  let digits ← digitsOf? Char.isDigit text
  if digits.length > 1 && digits.head? = some '0' then none else return Text.naturalValue digits

/-- An integer of 64 bits. -/
def integer? (text : List Char) : Option Int := do
  let value ← match text with
    | '0' :: 'x' :: digits => inBase? 16 digits
    | '0' :: 'o' :: digits => inBase? 8 digits
    | '0' :: 'b' :: digits => inBase? 2 digits
    | '-' :: digits => (decimal? digits).map (- ·)
    | '+' :: digits => decimal? digits
    | digits => decimal? digits
  if isSignedWord value then some value else none

def inNumber (c : Char) : Bool := c.isDigit || c = '_'

/-- A float has a fraction or an exponent, and digits on both sides of its point. -/
def float? (text : List Char) : Option Binary64 := do
  let body := match text with
    | '-' :: body => body
    | '+' :: body => body
    | body => body
  let whole := body.takeWhile inNumber
  let _ ← decimal? whole
  let fraction := match body.dropWhile inNumber with
    | '.' :: rest => some (rest.takeWhile inNumber)
    | _ => none
  let legal := fraction.all fun digits => (digitsOf? Char.isDigit digits).isSome
  if legal && text.any (fun c => c = '.' || c = 'e' || c = 'E') && text.getLast? != some '_' then
    Text.float? (text.filter (· != '_')) else none

/-- What an unquoted value denotes. -/
def ofBare? (text : List Char) : Option Document :=
  if text = "true".toList then some (.bool true)
  else if text = "false".toList then some (.bool false)
  else match integer? text with
    | some value => some (.int value)
    | none => (float? text).map .float

def isBare (c : Char) : Bool := c.isAlphanum || c = '_' || c = '-' || c = '+' || c = '.'

/-! ### Arrays and tables -/

/-- Sets the value at a path of keys, making the objects that lead there; nothing when the path is
taken or leads through another value. -/
def define? (entries : Entries Document) (value : Document) :
    List String → Option (Entries Document)
  | [] => none
  | [key] => if (entries.lookup key).isSome then none else some (entries.insert key value)
  | key :: path =>
    match entries.lookup key with
    | none => (define? [] value path).map fun inner => entries.insert key (.object inner)
    | some (.object inner) =>
      (define? inner value path).map fun inner => entries.insert key (.object inner)
    | some _ => none

mutual

def scanValue : Nat → List Char → Option (Document × List Char)
  | 0, _ => none
  | room + 1, text =>
    match text with
    | '[' :: rest => scanElements room [] rest
    | '\x7b' :: rest =>
      match skipSpace rest with
      | '\x7d' :: rest => some (.object [], rest)
      | rest => scanEntries room [] rest
    | '"' :: _ | '\'' :: _ =>
      (scanText text).map fun (read, rest) => (.string (String.ofList read), rest)
    | text => (ofBare? (text.takeWhile isBare)).map fun value => (value, text.dropWhile isBare)

/-- The elements of an array up to its bracket; the last one may be followed by a comma. -/
def scanElements : Nat → List Document → List Char → Option (Document × List Char)
  | 0, _, _ => none
  | room + 1, elements, text => do
    let start ← skipLines false text
    if start.head? = some ']' then return (.array elements.reverse, start.drop 1)
    else
      let (element, rest) ← scanValue room start
      let rest ← skipLines false rest
      match rest with
      | ',' :: rest => scanElements room (element :: elements) rest
      | ']' :: rest => return (.array (element :: elements).reverse, rest)
      | _ => none

/-- The entries of an inline table up to its brace, all on one line. -/
def scanEntries : Nat → Entries Document → List Char → Option (Document × List Char)
  | 0, _, _ => none
  | room + 1, entries, text => do
    let (path, rest) ← scanPath text.length text
    match rest with
    | '=' :: rest => do
      let (value, rest) ← scanValue room (skipSpace rest)
      let entries ← define? entries value path
      match skipSpace rest with
      | ',' :: rest => scanEntries room entries rest
      | '\x7d' :: rest => return (.object entries, rest)
      | _ => none
    | _ => none

end

end DataSchema.Toml
