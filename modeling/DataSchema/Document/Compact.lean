import DataSchema.Document.Basic
import DataSchema.Number.Shortest

/-!
# Compact and indented JSON text

`Document.compact` writes a document without spaces and with keys in order. It is the canonical text
of a document: fingerprints, primary keys and messages all use it. `Document.pretty` writes the same
text with an indentation of two spaces.
-/

namespace DataSchema

namespace Text

def hexDigit (n : Nat) : Char := (Nat.digitChar n)

/-- A quote, a backslash and the control characters are escaped; everything
else stands for itself. -/
def escapeChar (c : Char) : List Char :=
  if c = '"' then ['\\', '"']
  else if c = '\\' then ['\\', '\\']
  else if c.val ≥ 0x20 then [c]
  else if c = '\x08' then ['\\', 'b']
  else if c = '\x0c' then ['\\', 'f']
  else if c = '\n' then ['\\', 'n']
  else if c = '\r' then ['\\', 'r']
  else if c = '\t' then ['\\', 't']
  else ['\\', 'u', '0', '0', hexDigit (c.toNat / 16), hexDigit (c.toNat % 16)]

/-- A text between quotes, with escapes. -/
def quoted (text : String) : List Char :=
  '"' :: text.toList.flatMap escapeChar ++ ['"']

def integer (i : Int) : List Char :=
  if i < 0 then '-' :: Nat.toDigits 10 i.natAbs else Nat.toDigits 10 i.natAbs

end Text

namespace Document

mutual

def compactChars : Document → List Char
  | .null => ['n', 'u', 'l', 'l']
  | .bool true => ['t', 'r', 'u', 'e']
  | .bool false => ['f', 'a', 'l', 's', 'e']
  | .int i => Text.integer i
  | .float x => x.text
  | .string s => Text.quoted s
  | .array elements => '[' :: compactElements elements ++ [']']
  | .object entries => '\x7b' :: compactEntries entries ++ ['\x7d']

def compactElements : List Document → List Char
  | [] => []
  | [element] => compactChars element
  | element :: rest => compactChars element ++ ',' :: compactElements rest

def compactEntries : List (String × Document) → List Char
  | [] => []
  | [(key, value)] => Text.quoted key ++ ':' :: compactChars value
  | (key, value) :: rest =>
    Text.quoted key ++ ':' :: compactChars value ++ ',' :: compactEntries rest

end

/-- The canonical text of a document. -/
def compact (document : Document) : String := String.ofList document.compactChars

/-- The line break and the indentation in front of an item at the given depth. -/
def newline (depth : Nat) : List Char := '\n' :: List.replicate (2 * depth) ' '

mutual

def prettyChars (depth : Nat) : Document → List Char
  | .array [] => ['[', ']']
  | .object [] => ['\x7b', '\x7d']
  | .array elements => '[' :: prettyElements (depth + 1) elements ++ newline depth ++ [']']
  | .object entries => '\x7b' :: prettyEntries (depth + 1) entries ++ newline depth ++ ['\x7d']
  | .null => ['n', 'u', 'l', 'l']
  | .bool b => compactChars (.bool b)
  | .int i => Text.integer i
  | .float x => x.text
  | .string s => Text.quoted s

def prettyElements (depth : Nat) : List Document → List Char
  | [] => []
  | [element] => newline depth ++ prettyChars depth element
  | element :: rest =>
    newline depth ++ prettyChars depth element ++ ',' :: prettyElements depth rest

def prettyEntries (depth : Nat) : List (String × Document) → List Char
  | [] => []
  | [(key, value)] => newline depth ++ Text.quoted key ++ ':' :: ' ' :: prettyChars depth value
  | (key, value) :: rest =>
    newline depth ++ Text.quoted key ++ ':' :: ' ' :: prettyChars depth value ++
      ',' :: prettyEntries depth rest

end

/-- The text of a document on several lines; empty containers stay on one. -/
def pretty (document : Document) : String := String.ofList (document.prettyChars 0)

end Document

end DataSchema
