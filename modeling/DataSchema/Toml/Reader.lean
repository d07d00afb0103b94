import DataSchema.Toml.Value

/-!
# Reading TOML

A text is a list of statements, one a line: headers that name a table, and entries of the table
named last. No table is named twice, no key is set twice, and neither a value nor a table that was
made by an entry is taken up by a header. Arrays of tables are not read.
-/

namespace DataSchema.Toml

inductive Statement where
  | header (path : List String)
  | entry (path : List String) (value : Document)

/-- A statement, and the text behind it on its line. -/
def scanStatement (text : List Char) : Option (Statement × List Char) :=
  match text with
  | '[' :: rest => do
    let (path, rest) ← scanPath rest.length rest
    match rest with
    | ']' :: rest => return (.header path, rest)
    | _ => none
  | text => do
    let (path, rest) ← scanPath text.length text
    match rest with
    | '=' :: rest => do
      let (value, rest) ← scanValue (2 * rest.length + 2) (skipSpace rest)
      return (.entry path value, rest)
    | _ => none

/-- Whether nothing but blanks and a comment is left of a line. -/
def endsLine (text : List Char) : Bool :=
  match skipSpace text with
  | [] => true
  | '\n' :: _ => true
  | '#' :: _ => true
  | _ => false

/-- The statements of a text. Every statement takes at least one character, so `room` of them
suffice for a text of that length. -/
def statements : Nat → List Char → Option (List Statement)
  | 0, _ => none
  | room + 1, text => do
    let start ← skipLines false text
    if start.isEmpty then return []
    else
      let (statement, rest) ← scanStatement start
      if endsLine rest then
        let others ← statements room rest
        return statement :: others
      else none

/-- The tables built so far. -/
structure Tables where
  root : Document
  /-- The table that entries go to. -/
  current : List String
  /-- The tables that a header has named. -/
  named : List (List String)
  /-- The tables that entries have made on the way to their key. -/
  made : List (List String)
  /-- Where values stand. -/
  values : List (List String)

namespace Tables

def empty : Tables := ⟨.object [], [], [], [], []⟩

/-- Whether there is something at a path. -/
def has (document : Document) : List String → Bool
  | [] => true
  | key :: path => (document.get? key).any (has · path)

/-- Sets the value at a path, making the objects that lead there. -/
def set (document value : Document) : List String → Document
  | [] => value
  | key :: path =>
    let entries : Entries Document := match document with
      | .object entries => entries
      | _ => []
    .object (entries.insert key (set ((entries.lookup key).getD (.object [])) value path))

/-- The beginnings of a path that are longer than `base`, the whole path left out. -/
def between (base : Nat) (path : List String) : List (List String) :=
  ((List.range path.length).filter (base < ·)).map path.take

def header? (tables : Tables) (path : List String) : Option Tables :=
  let taken := tables.named.contains path || tables.made.contains path
    || tables.values.any fun value => value.isPrefixOf path
  if taken then none
  else
    let root := if has tables.root path then tables.root else set tables.root (.object []) path
    some { tables with root := root, current := path, named := path :: tables.named }

def entry? (tables : Tables) (path : List String) (value : Document) : Option Tables :=
  let whole := tables.current ++ path
  let passed := between tables.current.length whole
  let open_ := passed.all fun table => tables.made.contains table || !(has tables.root table)
  if !open_ || has tables.root whole then none
  else some { tables with
    root := set tables.root value whole, made := passed ++ tables.made,
    values := whole :: tables.values }

def step? (tables : Tables) : Statement → Option Tables
  | .header path => tables.header? path
  | .entry path value => tables.entry? path value

end Tables

/-- Line breaks in one spelling; a carriage return must come before a line break. -/
def unifyBreaks? : List Char → Option (List Char)
  | '\r' :: '\n' :: rest => (unifyBreaks? rest).map ('\n' :: ·)
  | '\r' :: _ => none
  | c :: rest => (unifyBreaks? rest).map (c :: ·)
  | [] => some []

end DataSchema.Toml

namespace DataSchema

/-- Reads a TOML text as an object. -/
def Document.ofToml? (text : String) : Option Document := do
  let characters ← Toml.unifyBreaks? text.toList
  let statements ← Toml.statements (characters.length + 1) characters
  let tables ← statements.foldlM Toml.Tables.step? .empty
  return tables.root

end DataSchema
