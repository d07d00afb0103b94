import DataSchema.Text.Split

/-!
# Writing TOML

Texts stand between double quotes. One with a quote or a backslash stands between single quotes, so
that nothing in it has to be escaped, unless it holds a control character or single quotes that
could be taken for its end. Line breaks and single quotes lead to triple quotes. An array of more
than one element has a line for each.
-/

namespace DataSchema.Toml

/-- Whether a character can only be written behind a backslash. -/
def isControl (c : Char) : Bool := (c.toNat ≤ 0x1f && c != '\t' && c != '\n') || c = '\x7f'

/-- The length of the longest run of single quotes. -/
def longestRun : Nat → Nat → List Char → Nat
  | longest, run, [] => max longest run
  | longest, run, c :: rest =>
    if c = '\'' then longestRun longest (run + 1) rest else longestRun (max longest run) 0 rest

/-- Whether a text is written between single quotes. -/
def prefersLiteral (text : List Char) : Bool :=
  text.any (fun c => c = '"' || c = '\\') && !(text.any isControl) && longestRun 0 0 text < 3 &&
    text.getLast? != some '\''

def hex4 (n : Nat) : List Char :=
  let digits := (Nat.toDigits 16 n).map Char.toUpper
  List.replicate (4 - digits.length) '0' ++ digits

/-- A character between double quotes, where a line break is itself only between triple quotes. -/
def basicChar (multiline : Bool) (c : Char) : List Char :=
  if c = '\x08' then ['\\', 'b']
  else if c = '\t' then ['\\', 't']
  else if c = '\n' then if multiline then ['\n'] else ['\\', 'n']
  else if c = '\x0c' then ['\\', 'f']
  else if c = '\r' then ['\\', 'r']
  else if c = '"' then ['\\', '"']
  else if c = '\\' then ['\\', '\\']
  else if isControl c then ['\\', 'u'] ++ hex4 c.toNat
  else [c]

/-- A text with its quotes. -/
def quoted (text : String) : String :=
  let characters := text.toList
  let multiline := characters.contains '\n'
  String.ofList <|
    if prefersLiteral characters then
      if multiline then ['\'', '\'', '\'', '\n'] ++ characters ++ ['\'', '\'', '\'']
      else if characters.contains '\'' then ['\'', '\'', '\''] ++ characters ++ ['\'', '\'', '\'']
      else '\'' :: characters ++ ['\'']
    else if multiline then ['"', '"', '"', '\n'] ++ characters.flatMap (basicChar true) ++
      ['"', '"', '"']
    else '"' :: characters.flatMap (basicChar false) ++ ['"']

/-- An array of texts. -/
def quotedArray : List String → String
  | [] => "[]"
  | [text] => "[" ++ quoted text ++ "]"
  | texts => "[\n" ++ String.join (texts.map fun text => "    " ++ quoted text ++ ",\n") ++ "]"

/-- A table with the texts of its values, every entry on a line. -/
def table (name : String) (entries : List (String × String)) : String :=
  "[" ++ name ++ "]\n" ++ String.join (entries.map fun (key, value) =>
    key ++ " = " ++ value ++ "\n")

/-- Tables with an empty line between them. -/
def tables (texts : List String) : String := Text.join "\n" texts

end DataSchema.Toml
