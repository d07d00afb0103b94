/-!
# Cutting and ordering texts

Texts are cut at a separator character and put together again, and names are sorted by code point.
-/

namespace DataSchema.Text

/-- The pieces between separators; there is always at least one. -/
def pieces (separator : Char) : List Char → List (List Char)
  | [] => [[]]
  | c :: rest =>
    if c = separator then [] :: pieces separator rest
    else match pieces separator rest with
      | piece :: others => (c :: piece) :: others
      | [] => [[c]]

/-- The nonempty pieces between separators. -/
def steps (separator : Char) (text : List Char) : List String :=
  ((pieces separator text).filter fun piece => !piece.isEmpty).map String.ofList

/-- The text before the first separator and the text after it. -/
def splitOnce? (separator : Char) : List Char → Option (List Char × List Char)
  | [] => none
  | c :: rest =>
    if c = separator then some ([], rest)
    else (splitOnce? separator rest).map fun (before, after) => (c :: before, after)

def join (separator : String) (texts : List String) : String := separator.intercalate texts

def sorted (names : List String) : List String := names.mergeSort fun a b => !(b < a)

/-- Takes a beginning off a text as often as it occurs, at most `room` times. -/
def dropBeginnings (beginning : List Char) : Nat → List Char → List Char
  | 0, text => text
  | room + 1, text =>
    if beginning.isPrefixOf text then dropBeginnings beginning room (text.drop beginning.length)
    else text

/-- The text without the ending, taken off as often as it occurs; an empty
ending changes nothing. -/
def dropEndings (ending text : List Char) : List Char :=
  if ending.isEmpty then text else (dropBeginnings ending.reverse text.length text.reverse).reverse

end DataSchema.Text
