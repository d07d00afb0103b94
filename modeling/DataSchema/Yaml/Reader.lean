import DataSchema.Yaml.Plain
import DataSchema.Yaml.Scalar

/-!
# Reading YAML

A text is read by descent over its nodes. In block context the column of a token decides to which
collection it belongs: `floor` is the least column at which a node may start, one more than the
column of the collection around it. A mapping key is a scalar that stands on one line with its
colon, so every node that is a scalar may turn out to be the first key of a mapping. Between
brackets and braces columns do not matter. Keys are texts as they are written, and a key that is
repeated keeps its first place and takes its last value. Anchors, aliases, tags, directives and
keys behind `?` are not read.
-/

namespace DataSchema.Yaml

/-- How many collections may be nested. -/
def maxNesting : Nat := 128

/-- How far behind the start of a key its colon may stand. -/
def maxKeyWidth : Nat := 1024

/-- A place between tokens, and whether the token there is the first one on its line. -/
structure Gap where
  place : Place
  fresh : Bool

/-- Goes to the next token, over blanks, comments and line breaks. In block context a tab is no
blank at the beginning of a line, where it would be indentation. -/
def skip (flow tabs comment fresh : Bool) : List Char → Nat → Nat → Gap
  | [], line, column => ⟨⟨[], line, column⟩, fresh⟩
  | c :: rest, line, column =>
    if isBreak c then skip flow flow false true rest (line + 1) 0
    else if comment || c = ' ' || (c = '\t' && tabs) then
      skip flow tabs comment fresh rest line (column + 1)
    else if c = '#' then skip flow tabs true fresh rest line (column + 1)
    else ⟨⟨c :: rest, line, column⟩, fresh⟩

namespace Place

/-- The next token after one in block context. -/
def next (place : Place) : Gap := skip false true false false place.rest place.line place.column

/-- The next token after one that a block collection may follow. -/
def nextNode (place : Place) : Gap :=
  skip false false false false place.rest place.line place.column

def nextInFlow (place : Place) : Place :=
  (skip true true false false place.rest place.line place.column).place

def drop (place : Place) (n : Nat) : Place := ⟨place.rest.drop n, place.line, place.column + n⟩

/-- Whether there is nothing more of the document. -/
def atEnd (place : Place) : Bool := place.rest.isEmpty || (place.column = 0 && atMark place.rest)

/-- Whether an element of a block sequence starts here. -/
def atDash (place : Place) : Bool :=
  match place.rest with
  | '-' :: rest => atBlank rest && !place.atEnd
  | _ => false

end Place

/-- The text of a scalar, and whether it is plain. -/
structure Scalar where
  text : List Char
  plain : Bool

namespace Scalar

def document? (scalar : Scalar) : Option Document :=
  if scalar.plain then ofPlain? scalar.text else some (.string (String.ofList scalar.text))

def key (scalar : Scalar) : String := String.ofList scalar.text

end Scalar

/-- A plain or quoted scalar. -/
def scanScalar (flow : Bool) (floor : Nat) (place : Place) : Option (Scalar × Place) :=
  if place.atEnd then none
  else match place.rest with
  | '"' :: rest =>
    (scanDouble [] .nothing .text rest place.line (place.column + 1)).map fun (text, place) =>
      (⟨text, false⟩, place)
  | '\'' :: rest =>
    (scanSingle [] .nothing false rest place.line (place.column + 1)).map fun (text, place) =>
      (⟨text, false⟩, place)
  | rest =>
    if startsPlain flow rest then
      (scanPlain flow floor [] .nothing place rest place.line place.column).map fun (text, place) =>
        (⟨text, true⟩, place)
    else none

/-- The place behind the colon that makes the scalar between two places a key. -/
def colonAfter? (flow : Bool) (start ended : Place) : Option Place :=
  if start.line != ended.line then none
  else
    let blanks := ended.rest.takeWhile isSpace
    match ended.rest.dropWhile isSpace with
    | ':' :: rest =>
      let column := ended.column + blanks.length
      if (flow || atBlank rest) && column - start.column ≤ maxKeyWidth then
        some ⟨rest, ended.line, column + 1⟩ else none
    | _ => none

/-! ### Between brackets and braces -/

mutual

/-- A node between brackets or braces. -/
def flowNode (depth : Nat) : Nat → Place → Option (Document × Place)
  | 0, _ => none
  | room + 1, place =>
    match place.rest, depth with
    | '[' :: _, depth + 1 => flowElements depth room [] (place.drop 1)
    | '\x7b' :: _, depth + 1 => flowEntries depth room [] (place.drop 1)
    | '[' :: _, 0 | '\x7b' :: _, 0 => none
    | _, _ => do
      let (scalar, ended) ← scanScalar true 0 place
      let document ← scalar.document?
      return (document, ended)

/-- The elements of a list up to its bracket. A key with its value is a mapping of one entry. -/
def flowElements (depth : Nat) : Nat → List Document → Place → Option (Document × Place)
  | 0, _, _ => none
  | room + 1, elements, place => do
    let start := place.nextInFlow
    if start.rest.head? = some ']' then return (.array elements.reverse, start.drop 1)
    else
      let pair := do
        let (scalar, ended) ← scanScalar true 0 start
        let colon ← colonAfter? true start ended
        return (scalar.key, colon)
      let (element, ended) ← match pair, depth with
        | some (key, colon), depth + 1 => do
          let (value, ended) ← flowValue depth room colon
          pure (Document.object [(key, value)], ended)
        | some _, 0 => none
        | none, _ => flowNode depth room start
      let next := ended.nextInFlow
      match next.rest with
      | ',' :: _ => flowElements depth room (element :: elements) (next.drop 1)
      | ']' :: _ => return (.array (element :: elements).reverse, next.drop 1)
      | _ => none

/-- The entries of a mapping up to its brace. A key without a colon has the value null. -/
def flowEntries (depth : Nat) : Nat → Entries Document → Place → Option (Document × Place)
  | 0, _, _ => none
  | room + 1, entries, place => do
    let start := place.nextInFlow
    if start.rest.head? = some '\x7d' then return (.object entries, start.drop 1)
    else
      let (scalar, ended) ← scanScalar true 0 start
      let (value, ended) ← match colonAfter? true start ended with
        | some colon => flowValue depth room colon
        | none => some (Document.null, ended)
      let next := ended.nextInFlow
      match next.rest with
      | ',' :: _ => flowEntries depth room (entries.insert scalar.key value) (next.drop 1)
      | '\x7d' :: _ => return (.object (entries.insert scalar.key value), next.drop 1)
      | _ => none

/-- The value behind a colon; nothing written is null. -/
def flowValue (depth : Nat) : Nat → Place → Option (Document × Place)
  | 0, _ => none
  | room + 1, place =>
    let start := place.nextInFlow
    match start.rest with
    | ',' :: _ | ']' :: _ | '\x7d' :: _ => some (.null, start)
    | _ => flowNode depth room start

end

/-! ### Block context -/

/-- What a node in block context turns out to be. -/
inductive Opening where
  | dash
  | key (name : String) (colon : Place)
  | node (document : Document) (next : Gap)

/-- Reads what starts here, if it is neither a sequence nor a mapping of block context. `keys` says
whether a block collection may start here. -/
def opening (depth room floor : Nat) (keys : Bool) (place : Place) : Option Opening :=
  match place.rest with
  | '|' :: _ => do
    let (text, next) ← scanBlock true floor (place.drop 1)
    return .node (.string (String.ofList text)) { next.nextNode with fresh := true }
  | '>' :: _ => do
    let (text, next) ← scanBlock false floor (place.drop 1)
    return .node (.string (String.ofList text)) { next.nextNode with fresh := true }
  | '[' :: _ | '\x7b' :: _ => do
    let (document, ended) ← flowNode depth room place
    return .node document ended.next
  | _ =>
    if place.atDash then if keys then some .dash else none
    else do
      let (scalar, ended) ← scanScalar false floor place
      match keys, colonAfter? false place ended with
      | true, some colon => return .key scalar.key colon
      | _, _ => do
        let document ← scalar.document?
        return .node document ended.next

mutual

/-- A node in block context. -/
def blockNode (depth : Nat) : Nat → Nat → Bool → Place → Option (Document × Gap)
  | 0, _, _, _ => none
  | room + 1, floor, keys, place => do
    let opened ← opening depth room floor keys place
    match opened, depth with
    | .node document next, _ => return (document, next)
    | .dash, depth + 1 => blockElements depth room place.column [] place
    | .key name colon, depth + 1 => blockEntries depth room place.column [] name colon
    | _, 0 => none

/-- The elements of a sequence from one of its dashes. The sequence ends where no
dash stands in its column. -/
def blockElements (depth : Nat) : Nat → Nat → List Document → Place → Option (Document × Gap)
  | 0, _, _, _ => none
  | room + 1, column, elements, dash => do
    let start := (dash.drop 1).nextNode
    let (element, next) ←
      if start.place.atEnd || (start.fresh && start.place.column ≤ column) then
        some (Document.null, start)
      else blockNode depth room (column + 1) true start.place
    if next.place.rest.isEmpty then return (.array (element :: elements).reverse, next)
    else if !next.fresh then none
    else if next.place.column = column && next.place.atDash then
      blockElements depth room column (element :: elements) next.place
    else return (.array (element :: elements).reverse, next)

/-- The entries of a mapping from the colon of one of its keys. The mapping ends where a line
starts in another column. -/
def blockEntries (depth : Nat) :
    Nat → Nat → Entries Document → String → Place → Option (Document × Gap)
  | 0, _, _, _, _ => none
  | room + 1, column, entries, name, colon => do
    let (value, next) ← blockValue depth room column colon
    let entries := entries.insert name value
    if next.place.atEnd then return (.object entries, next)
    else if !next.fresh then none
    else if next.place.column != column then return (.object entries, next)
    else
      let (scalar, ended) ← scanScalar false (column + 1) next.place
      let colon ← colonAfter? false next.place ended
      blockEntries depth room column entries scalar.key colon

/-- The value of a mapping's key; the dashes of a sequence may stand below the key. -/
def blockValue (depth : Nat) : Nat → Nat → Place → Option (Document × Gap)
  | 0, _, _ => none
  | room + 1, column, colon =>
    let start := colon.next
    if start.place.atEnd then some (.null, start)
    else if !start.fresh then blockNode depth room (column + 1) false start.place
    else if start.place.column > column then blockNode depth room (column + 1) true start.place
    else if start.place.column = column && start.place.atDash then
      match depth with
      | depth + 1 => blockElements depth room column [] start.place
      | 0 => none
    else some (.null, start)

end

/-- Whether nothing but ends of the document is left. -/
def isFinished : Nat → Gap → Bool
  | 0, gap => gap.place.rest.isEmpty
  | room + 1, gap =>
    match gap.place.rest with
    | [] => true
    | '.' :: '.' :: '.' :: _ =>
      gap.fresh && gap.place.atEnd && isFinished room (gap.place.drop 3).next
    | _ => false

/-- The document of a text and what follows it. -/
def readNode (room : Nat) (start : Gap) (keys : Bool) : Option (Document × Gap) :=
  if start.place.atEnd then some (.null, start) else blockNode maxNesting room 0 keys start.place

end DataSchema.Yaml

namespace DataSchema

/-- Reads a text that holds one YAML document; no document at all is null. -/
def Document.ofYaml? (text : String) : Option Document := do
  let characters := match text.toList with
    | '\ufeff' :: rest => rest
    | characters => characters
  if characters.all Yaml.isAllowed then
    let body := Yaml.unifyBreaks characters
    let room := 4 * body.length + 8
    let start := Yaml.skip false false false true body 0 0
    let (document, next) ←
      if start.place.column = 0 && start.place.rest.take 3 = ['-', '-', '-'] &&
        Yaml.atMark start.place.rest then
        let first := (start.place.drop 3).next
        Yaml.readNode room first first.fresh
      else Yaml.readNode room start true
    if Yaml.isFinished room next then some document else none
  else none

end DataSchema
